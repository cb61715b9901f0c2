import LineCoverage.Stats.Format
import LineCoverage.Numeral
import Mathlib
/-! Average hits are truncated to two decimals.

The average is kept scaled by 100. Computed in 128-bit words, the product of 100 and a 64-bit
hit count cannot overflow, so the checked computation always succeeds and gives the plain
quotient, capped at 2^64 - 1. Its text is the hundreds, a point, and the last two digits padded
with a zero, so read as a decimal number it is exactly the scaled value over 100. Below the cap
that is the hits per relevant line truncated, not rounded, to two decimals.
-/

set_option autoImplicit false

namespace LineCoverage

/-! ## Reading a decimal -/

/-- The value of a decimal numeral with a point: the digits before the point, and the digits
after it over ten to the power of their count. -/
def pointValue (text : String) : ℚ :=
  match Text.splitFirst '.' text.toList with
  | some (whole, frac) => Numeral.digitsValue whole + Numeral.digitsValue frac / 10 ^ frac.length
  | none => Numeral.digitsValue text.toList

theorem splitFirst_append {sep : Char} {front : List Char} (absent : sep ∉ front)
    (back : List Char) : Text.splitFirst sep (front ++ sep :: back) = some (front, back) := by
  induction front with
  | nil => simp [Text.splitFirst]
  | cons c rest ih =>
    simp only [List.mem_cons, not_or] at absent
    simp [Text.splitFirst, ih absent.2, Ne.symm absent.1]

theorem digitsValue_eq_ofDigitChars (cs : List Char) :
    Numeral.digitsValue cs = Nat.ofDigitChars 10 cs 0 := by
  simp only [Numeral.digitsValue, Nat.ofDigitChars]
  congr
  funext acc c
  rw [Nat.mul_comm]
  rfl

theorem digitsValue_toDigits (n : Nat) : Numeral.digitsValue (Nat.toDigits 10 n) = n := by
  rw [digitsValue_eq_ofDigitChars, Nat.ofDigitChars_ten_toDigits]

theorem digitsValue_pair {tens units : Nat} (tensDigit : tens < 10) (unitsDigit : units < 10) :
    Numeral.digitsValue [Nat.digitChar tens, Nat.digitChar units] = 10 * tens + units := by
  simp only [Numeral.digitsValue, List.foldl_cons, List.foldl_nil,
    Nat.toNat_digitChar_of_lt_ten tensDigit, Nat.toNat_digitChar_of_lt_ten unitsDigit]
  omega

/-! ## The text of an average -/

theorem padDigits_two {n : Nat} (small : n < 100) :
    Decimal.padDigits 2 n = [Nat.digitChar (n / 10), Nat.digitChar (n % 10)] := by
  by_cases one : n < 10
  · simp [Decimal.padDigits, Decimal.digitChars, Nat.toDigits_of_lt_base one,
      Nat.div_eq_of_lt one, Nat.mod_eq_of_lt one]
  · -- two digits: the tens come first, then the units
    have tens : n / 10 < 10 := by omega
    have digits : Nat.toDigits 10 n = [Nat.digitChar (n / 10), Nat.digitChar (n % 10)] := by
      have split : Nat.toDigits 10 (n / 10) ++ Nat.toDigits 10 (n % 10) =
          Nat.toDigits 10 (10 * (n / 10) + n % 10) :=
        Nat.toDigits_append_toDigits (by decide) (by omega) (Nat.mod_lt n (by decide))
      rw [Nat.toDigits_of_lt_base tens, Nat.toDigits_of_lt_base (Nat.mod_lt n (by decide)),
        Nat.div_add_mod] at split
      exact split.symm
    simp [Decimal.padDigits, Decimal.digitChars, digits]

theorem formatAverage_eq (v : Nat) :
    formatAverage v =
      toString (v / 100) ++ "." ++ String.ofList [Nat.digitChar (v % 100 / 10), Nat.digitChar (v % 10)] := by
  rw [formatAverage, padDigits_two (Nat.mod_lt v (by decide)),
    Nat.mod_mod_of_dvd v (by decide : 10 ∣ 100)]

theorem pointValue_formatAverage (v : Nat) : pointValue (formatAverage v) = (v : ℚ) / 100 := by
  have noPoint : '.' ∉ Nat.toDigits 10 (v / 100) := fun member => by
    have := Nat.isDigit_of_mem_toDigits (by decide) (by decide) member
    simp at this
  have spelled : (formatAverage v).toList =
      Nat.toDigits 10 (v / 100) ++ '.' :: [Nat.digitChar (v % 100 / 10), Nat.digitChar (v % 10)] := by
    simp [formatAverage_eq, String.toList_append, Nat.toString_eq_repr, Nat.toList_repr]
  have fraction : 10 * (v % 100 / 10) + v % 10 = v % 100 := by omega
  have whole : (v : ℚ) = 100 * ((v / 100 : ℕ) : ℚ) + ((v % 100 : ℕ) : ℚ) := by
    exact_mod_cast (Nat.div_add_mod v 100).symm
  rw [pointValue, spelled, splitFirst_append noPoint]
  simp only [digitsValue_toDigits, digitsValue_pair (by omega : v % 100 / 10 < 10)
    (Nat.mod_lt v (by decide)), fraction, List.length_cons, List.length_nil]
  rw [whole]
  ring

/-! ## The average -/

/-- In 128-bit words the product of 100 and a 64-bit count fits, so the checked computation
succeeds with the plain quotient, capped at 2^64 - 1. -/
theorem Stats.averageChecked_eq_ok {s : Stats} (hits64 : s.totalHits ≤ countLimit) :
    s.averageChecked = .ok s.averageHits := by
  have wide : 100 * s.totalHits ≤ 2 ^ 128 - 1 := by
    unfold countLimit at hits64
    omega
  unfold Stats.averageChecked Stats.averageHits
  by_cases empty : s.relevantLines = 0
  · simp [empty]
  · rw [if_neg empty, if_neg empty, if_pos wide, Nat.min_def]

theorem Stats.averageHits_of_lt {s : Stats} (bound : 100 * s.totalHits / s.relevantLines < 2 ^ 64) :
    s.averageHits = 100 * s.totalHits / s.relevantLines := by
  unfold Stats.averageHits
  split
  · rename_i empty
    simp [empty]
  · exact Nat.min_eq_left (by unfold countLimit; omega)

theorem scaled_eq_floor (hits relevant : Nat) :
    100 * hits / relevant = ⌊(hits : ℚ) / relevant * 100⌋₊ := by
  have scaled : (hits : ℚ) / relevant * 100 = ((100 * hits : ℕ) : ℚ) / relevant := by
    push_cast
    ring
  rw [scaled, Nat.floor_div_eq_div]

/-- The average of hits per relevant line. Computed in 128-bit words it never overflows: it is
0 when nothing is relevant and otherwise `100 * hits / relevant` rounded down and capped at
2^64 - 1. Its text is the numeral of the hundreds, a point, and exactly two digits of the rest,
so read as a decimal it is the scaled value over 100. Below the cap the text is therefore the
hits per relevant line truncated, not rounded, to two decimals. -/
theorem Stats.average_text_truncates (s : Stats) (v : Nat) (hits64 : s.totalHits ≤ countLimit) :
    s.averageChecked = .ok s.averageHits ∧
    s.averageHits =
      (if s.relevantLines = 0 then 0 else min (100 * s.totalHits / s.relevantLines) countLimit) ∧
    formatAverage v =
      toString (v / 100) ++ "." ++ String.ofList [Nat.digitChar (v % 100 / 10), Nat.digitChar (v % 10)] ∧
    pointValue (formatAverage v) = (v : ℚ) / 100 ∧
    (100 * s.totalHits / s.relevantLines < 2 ^ 64 →
      pointValue (formatAverage s.averageHits) = (⌊(s.totalHits : ℚ) / s.relevantLines * 100⌋₊ : ℚ) / 100) := by
  refine ⟨Stats.averageChecked_eq_ok hits64, rfl, formatAverage_eq v, pointValue_formatAverage v, ?_⟩
  intro bound
  rw [pointValue_formatAverage, Stats.averageHits_of_lt bound, scaled_eq_floor]

/-- Hits at the 64-bit limit over 200 relevant lines: the product needs the wide words, and
the average is the limit halved. -/
theorem Stats.average_of_saturated_hits :
    (⟨200, 200, 200, countLimit⟩ : Stats).totalHits ≤ countLimit ∧
    ((⟨200, 200, 200, countLimit⟩ : Stats).averageChecked =
        .ok (⟨200, 200, 200, countLimit⟩ : Stats).averageHits ∧
      (⟨200, 200, 200, countLimit⟩ : Stats).averageHits =
        (if (200 : Nat) = 0 then 0 else min (100 * countLimit / 200) countLimit) ∧
      formatAverage 5 = toString (5 / 100) ++ "." ++
        String.ofList [Nat.digitChar (5 % 100 / 10), Nat.digitChar (5 % 10)] ∧
      pointValue (formatAverage 5) = ((5 : Nat) : ℚ) / 100 ∧
      (100 * countLimit / 200 < 2 ^ 64 →
        pointValue (formatAverage (⟨200, 200, 200, countLimit⟩ : Stats).averageHits) =
          (⌊((countLimit : Nat) : ℚ) / (200 : Nat) * 100⌋₊ : ℚ) / 100)) :=
  ⟨le_refl _, Stats.average_text_truncates ⟨200, 200, 200, countLimit⟩ 5 (le_refl _)⟩

example : (⟨200, 200, 200, countLimit⟩ : Stats).averageHits = countLimit / 2 := by decide

end LineCoverage
