import LineCoverage.Proofs.Text.Encoding
import LineCoverage.Json.Reader.Document
import LineCoverage.Text.Bytewise
/-! Reading back what the writer writes: strings, numbers and keywords.

What the reader returns on success depends only on the bytes still to read, so every lemma
here is over any cursor whose bytes are a written token followed by some rest, and says that
the reader takes exactly the token and gives back what was written.

A string is read byte by byte: a byte that needs no escape is collected as it is, and an
escape adds the bytes of its character. The writer escapes exactly the quote, the backslash
and the control characters, so the collected bytes are the encoding of the string, which
strict reading turns back into the string. A number is read digit by digit while it stays
below 2^64, and stops at the first byte that cannot continue it: after a written value that
is the end of the text, a comma or a closing bracket.
-/

set_option autoImplicit false

namespace LineCoverage.Json

open Text.Utf8 (toUTF8_toList toNat_byte)

def AfterValue (r : List UInt8) : Prop := ∀ b ∈ r.head?, b = 44 ∨ b = 93 ∨ b = 125

/-! ## The cursor -/

theorem Cursor.advanceBy_rest (c : Cursor) (n : Nat) : (c.advanceBy n).rest = c.rest.drop n := by
  induction n generalizing c with
  | zero => rfl
  | succ n ih => rw [Cursor.advanceBy, ih, Cursor.advance_rest, List.drop_tail]

theorem Cursor.skipBlanks_of_cons {c : Cursor} {b : UInt8} {t : List UInt8} (h : c.rest = b :: t)
    (solid : isBlankByte b = false) : c.skipBlanks = c := by
  rw [Cursor.skipBlanks]
  split
  · rfl
  · rename_i b' t' h'
    rw [h] at h'
    cases h'
    rw [if_neg (by simp [solid])]

theorem Cursor.skipBlanks_of_nil {c : Cursor} (h : c.rest = []) : c.skipBlanks = c := by
  rw [Cursor.skipBlanks]
  split
  · rfl
  · rename_i h'
    rw [h] at h'
    cases h'

theorem expectWord_eq_ok (ws t : List UInt8) :
    ∀ c : Cursor, c.rest = ws ++ t → ∃ d : Cursor, d.rest = t ∧ expectWord c ws = .ok ((), d) := by
  induction ws with
  | nil => exact fun c h => ⟨c, h, rfl⟩
  | cons w ws ih =>
    intro c h
    obtain ⟨d, rest, read⟩ := ih c.advance (by rw [Cursor.advance_rest, h]; rfl)
    refine ⟨d, rest, ?_⟩
    rw [expectWord, h]
    simp only [List.cons_append, if_pos, read]

/-! ## ASCII -/

theorem utf8EncodeChar_ascii {ch : Char} (h : ch.toNat < 0x80) :
    String.utf8EncodeChar ch = [UInt8.ofNat ch.toNat] := by
  unfold String.utf8EncodeChar
  exact if_pos (by show ch.toNat ≤ 127; omega)

theorem flatMap_ascii (cs : List Char) (ascii : ∀ ch ∈ cs, ch.toNat < 0x80) :
    cs.flatMap String.utf8EncodeChar = cs.map fun ch => UInt8.ofNat ch.toNat := by
  induction cs with
  | nil => rfl
  | cons ch cs ih =>
    rw [List.flatMap_cons, List.map_cons, utf8EncodeChar_ascii (ascii ch (List.mem_cons_self ..)),
      ih fun x mem => ascii x (List.mem_cons_of_mem _ mem)]
    rfl

theorem toUTF8_singleton (ch : Char) : (String.singleton ch).toUTF8.toList = String.utf8EncodeChar ch := by
  rw [toUTF8_toList, String.toList_singleton, List.flatMap_singleton]

/-! ## Strings -/

theorem plain_utf8EncodeChar {ch : Char} (noQuote : ch ≠ '"') (noBackslash : ch ≠ '\\')
    (printable : 0x20 ≤ ch.toNat) :
    ∀ b ∈ String.utf8EncodeChar ch, b.toNat ≠ 34 ∧ b.toNat ≠ 92 ∧ 0x20 ≤ b.toNat := by
  have quoteNat : ch.toNat ≠ 34 := fun h => noQuote (Char.toNat_inj.mp h)
  have backslashNat : ch.toNat ≠ 92 := fun h => noBackslash (Char.toNat_inj.mp h)
  have toNat : ch.val.toNat = ch.toNat := rfl
  unfold String.utf8EncodeChar
  dsimp only
  rw [toNat]
  split_ifs <;> simp only [List.mem_cons, List.not_mem_nil, or_false] <;> intro b mem
  · subst mem
    rw [toNat_byte (by omega)]
    omega
  all_goals
    rcases mem with rfl | rfl | rfl | rfl <;> rw [toNat_byte (by omega)] <;> omega

theorem stringBytes_plain (bs : List UInt8)
    (plain : ∀ b ∈ bs, b.toNat ≠ 34 ∧ b.toNat ≠ 92 ∧ 0x20 ≤ b.toNat) :
    ∀ (acc : List UInt8) (c : Cursor) (fuel : Nat) (t : List UInt8), c.rest = bs ++ t →
      ∃ d : Cursor, d.rest = t ∧
        stringBytes acc c (fuel + bs.length) = stringBytes (bs.reverse ++ acc) d fuel := by
  induction bs with
  | nil => exact fun acc c fuel t h => ⟨c, h, rfl⟩
  | cons b bs ih =>
    intro acc c fuel t h
    obtain ⟨noQuote, noBackslash, printable⟩ := plain b (List.mem_cons_self ..)
    obtain ⟨d, rest, run⟩ := ih (fun x mem => plain x (List.mem_cons_of_mem _ mem)) (b :: acc)
      c.advance fuel t (by rw [Cursor.advance_rest, h]; rfl)
    refine ⟨d, rest, ?_⟩
    have quote : b ≠ 34 := fun eq => noQuote (by rw [eq]; rfl)
    have backslash : b ≠ 92 := fun eq => noBackslash (by rw [eq]; rfl)
    rw [List.length_cons, ← Nat.add_assoc, stringBytes, h]
    simp only [List.cons_append, if_neg quote, if_neg backslash, if_neg (Nat.not_lt.mpr printable),
      run, List.reverse_cons, List.append_assoc, List.nil_append]

theorem stringBytes_escape {e : UInt8} {x : Char} (acc : List UInt8) (c : Cursor) (fuel : Nat)
    (t : List UInt8) (h : c.rest = 92 :: e :: t)
    (reads : ∀ d : Cursor, d.rest = e :: t → readEscape d = .ok (x, d.advance)) :
    stringBytes acc c (fuel + 2) =
      stringBytes ((String.utf8EncodeChar x).reverse ++ acc) c.advance.advance (fuel + 1) := by
  have escaped : c.advance.rest = e :: t := by rw [Cursor.advance_rest, h]; rfl
  rw [stringBytes, h]
  simp only [if_neg (by decide : (92 : UInt8) ≠ 34), if_pos, reads c.advance escaped,
    toUTF8_singleton]

theorem hexDigit_toNat_lt {n : Nat} (small : n < 16) : (hexDigit n).toNat < 0x80 := by
  unfold hexDigit
  split_ifs <;> rw [Text.Bytewise.toNat_ofNat_byte _ (by omega)] <;> omega

theorem hexValue_hexDigit {n : Nat} (small : n < 16) :
    hexValue (UInt8.ofNat (hexDigit n).toNat) = some n := by
  unfold hexDigit
  split_ifs with decimal
  · rw [Text.Bytewise.toNat_ofNat_byte _ (by omega), hexValue, toNat_byte (by omega),
      if_pos (by omega), Nat.add_sub_cancel_left]
  · rw [Text.Bytewise.toNat_ofNat_byte _ (by omega), hexValue, toNat_byte (by omega),
      if_neg (by omega), if_neg (by omega), if_pos (by omega), Nat.add_sub_cancel_left]

/-- A control character is written as `\u00` and two hex digits, which read back as it. -/
theorem stringBytes_control {ch : Char} (control : ch.toNat < 0x20) (acc : List UInt8)
    (c : Cursor) (fuel : Nat) (t : List UInt8)
    (h : c.rest = [92, 117, 48, 48, UInt8.ofNat (hexDigit (ch.toNat / 16)).toNat,
      UInt8.ofNat (hexDigit (ch.toNat % 16)).toNat] ++ t) :
    ∃ d : Cursor, d.rest = t ∧ stringBytes acc c (fuel + 6) =
      stringBytes ((String.utf8EncodeChar ch).reverse ++ acc) d (fuel + 5) := by
  have high := hexValue_hexDigit (n := ch.toNat / 16) (by omega)
  have low := hexValue_hexDigit (n := ch.toNat % 16) (by omega)
  have value : ((0 * 16 + 0) * 16 + ch.toNat / 16) * 16 + ch.toNat % 16 = ch.toNat := by omega
  let d := c.advance.advance.advanceBy 4
  have digits : c.advance.advance.rest = 48 :: 48 :: UInt8.ofNat (hexDigit (ch.toNat / 16)).toNat ::
      UInt8.ofNat (hexDigit (ch.toNat % 16)).toNat :: t := by
    rw [Cursor.advance_rest, Cursor.advance_rest, h]
    rfl
  refine ⟨d, by rw [Cursor.advanceBy_rest, digits]; rfl, ?_⟩
  have escape : c.advance.rest = 117 :: 48 :: 48 :: UInt8.ofNat (hexDigit (ch.toNat / 16)).toNat ::
      UInt8.ofNat (hexDigit (ch.toNat % 16)).toNat :: t := by
    rw [Cursor.advance_rest, h]
    rfl
  rw [stringBytes, h]
  simp only [List.cons_append, if_neg (by decide : (92 : UInt8) ≠ 34), if_pos, readEscape, escape,
    hexEscape, digits, high, low, show hexValue 48 = some 0 from rfl, value, if_neg (by omega : ¬ (0xDC00 ≤ ch.toNat ∧ ch.toNat ≤ 0xDFFF)),
    if_neg (by omega : ¬ (0xD800 ≤ ch.toNat ∧ ch.toNat ≤ 0xDBFF)), Char.ofNat_toNat, toUTF8_singleton]
  rfl

theorem stringBytes_char (ch : Char) (acc : List UInt8) (c : Cursor) (fuel : Nat) (t : List UInt8)
    (h : c.rest = (escapeChar ch).flatMap String.utf8EncodeChar ++ t) :
    ∃ d k, d.rest = t ∧ fuel ≤ k ∧
      stringBytes acc c (fuel + ((escapeChar ch).flatMap String.utf8EncodeChar).length) =
        stringBytes ((String.utf8EncodeChar ch).reverse ++ acc) d k := by
  have two : ∀ {e : UInt8} {x : Char}, c.rest = 92 :: e :: t →
      (∀ d : Cursor, d.rest = e :: t → readEscape d = .ok (x, d.advance)) →
      ∃ d k, d.rest = t ∧ fuel ≤ k ∧ stringBytes acc c (fuel + 2) =
        stringBytes ((String.utf8EncodeChar x).reverse ++ acc) d k := fun h reads =>
    ⟨_, _, by rw [Cursor.advance_rest, Cursor.advance_rest, h]; rfl, Nat.le_succ fuel,
      stringBytes_escape acc c fuel t h reads⟩
  -- the cases of the writer's escape
  unfold escapeChar at h ⊢
  split at h
  · exact two h fun d hd => by rw [readEscape, hd]; rfl
  · exact two h fun d hd => by rw [readEscape, hd]; rfl
  · exact two h fun d hd => by rw [readEscape, hd]; rfl
  · exact two h fun d hd => by rw [readEscape, hd]; rfl
  · exact two h fun d hd => by rw [readEscape, hd]; rfl
  · exact two h fun d hd => by rw [readEscape, hd]; rfl
  · exact two h fun d hd => by rw [readEscape, hd]; rfl
  · rename_i noQuote noBackslash _ _ _ _ _
    split at h
    · rename_i control
      rw [if_pos control]
      rw [flatMap_ascii _ (by
        simp only [List.mem_cons, List.not_mem_nil, or_false]
        rintro x (rfl | rfl | rfl | rfl | rfl | rfl)
        any_goals decide
        all_goals exact hexDigit_toNat_lt (by omega))] at h ⊢
      obtain ⟨d, rest, run⟩ := stringBytes_control control acc c fuel t h
      exact ⟨d, fuel + 5, rest, by omega, run⟩
    · rename_i printable
      rw [if_neg printable, List.flatMap_singleton] at ⊢
      rw [List.flatMap_singleton] at h
      obtain ⟨d, rest, run⟩ := stringBytes_plain _
        (plain_utf8EncodeChar noQuote noBackslash (Nat.le_of_not_lt printable)) acc c fuel t h
      exact ⟨d, fuel, rest, Nat.le_refl fuel, run⟩

theorem stringBytes_escaped (t : List UInt8) (cs : List Char) :
    ∀ (acc : List UInt8) (c : Cursor) (fuel : Nat),
      c.rest = (cs.flatMap escapeChar).flatMap String.utf8EncodeChar ++ t →
      ∃ d k, d.rest = t ∧ fuel ≤ k ∧
        stringBytes acc c (fuel + ((cs.flatMap escapeChar).flatMap String.utf8EncodeChar).length) =
          stringBytes ((cs.flatMap String.utf8EncodeChar).reverse ++ acc) d k := by
  induction cs with
  | nil => exact fun acc c fuel h => ⟨c, fuel, h, Nat.le_refl fuel, rfl⟩
  | cons ch cs ih =>
    intro acc c fuel h
    -- the first character's escape comes first; the fuel left over covers the others
    rw [List.flatMap_cons, List.flatMap_append, List.append_assoc] at h
    obtain ⟨d, k, rest, more, first⟩ := stringBytes_char ch acc c
      (fuel + ((cs.flatMap escapeChar).flatMap String.utf8EncodeChar).length) _ h
    obtain ⟨e, k', done, more', others⟩ := ih ((String.utf8EncodeChar ch).reverse ++ acc) d
      (k - ((cs.flatMap escapeChar).flatMap String.utf8EncodeChar).length) rest
    refine ⟨e, k', done, by omega, ?_⟩
    rw [List.flatMap_cons, List.flatMap_append, List.length_append, ← Nat.add_assoc,
      Nat.add_right_comm, first,
      ← Nat.sub_add_cancel (by omega : ((cs.flatMap escapeChar).flatMap String.utf8EncodeChar).length ≤ k),
      others, List.flatMap_cons, List.reverse_append, List.append_assoc]

theorem stringBytes_close (acc : List UInt8) (c : Cursor) (fuel : Nat) (t : List UInt8)
    (h : c.rest = 34 :: t) {s : String} (text : Text.Utf8.decode acc.reverse = .ok s) :
    stringBytes acc c (fuel + 1) = .ok (s, c.advance) := by
  rw [stringBytes, h]
  simp only [if_pos, text]

theorem quote_bytes (s : String) :
    (quote s).toUTF8.toList = 34 :: ((s.toList.flatMap escapeChar).flatMap String.utf8EncodeChar ++ [34]) := by
  rw [quote, toUTF8_toList, String.toList_ofList, List.flatMap_cons, List.flatMap_append]
  rfl

theorem readString_quote (s : String) (c : Cursor) (t : List UInt8)
    (h : c.rest = (quote s).toUTF8.toList ++ t) :
    ∃ d : Cursor, d.rest = t ∧ readString c.advance = .ok (s, d) := by
  have inside : c.advance.rest = (s.toList.flatMap escapeChar).flatMap String.utf8EncodeChar ++
      34 :: t := by
    rw [Cursor.advance_rest, h, quote_bytes]
    simp
  obtain ⟨d, k, rest, _, run⟩ := stringBytes_escaped (34 :: t) s.toList [] c.advance
    (t.length + 2) inside
  refine ⟨d.advance, by rw [Cursor.advance_rest, rest]; rfl, ?_⟩
  have fuel : c.advance.rest.length + 1 = (t.length + 2) +
      ((s.toList.flatMap escapeChar).flatMap String.utf8EncodeChar).length := by
    rw [inside, List.length_append, List.length_cons]
    omega
  have text : Text.Utf8.decode ((s.toList.flatMap String.utf8EncodeChar).reverse ++ []).reverse =
      .ok s := by
    rw [List.append_nil, List.reverse_reverse, ← toUTF8_toList]
    exact Text.Utf8.decode_toUTF8 s
  rw [readString, fuel, run, ← Nat.sub_add_cancel (by omega : 1 ≤ k)]
  exact stringBytes_close _ d _ t rest text

/-! ## Numbers -/

theorem passes_eq_false {acc d limit : Nat} (digit : d < 10) (fits : acc * 10 + d ≤ limit) :
    passes acc d limit = false := by
  unfold passes
  simp only [Bool.and_eq_false_iff, Bool.or_eq_false_iff, decide_eq_false_iff_not]
  omega

theorem digit_range {d : Char} (h : d.isDigit) : 48 ≤ d.toNat ∧ d.toNat ≤ 57 :=
  Char.isDigit_iff_toNat.mp h

theorem isDigit_of_mem_toDigits {n : Nat} {d : Char} (mem : d ∈ Nat.toDigits 10 n) : d.isDigit :=
  Nat.isDigit_of_mem_toDigits (by decide) (by decide) mem

theorem toDigits_lead {n : Nat} (pos : 0 < n) :
    ∃ f more, Nat.toDigits 10 n = f :: more ∧ f ≠ '0' := by
  induction n using Nat.strongRecOn with
  | ind n ih =>
    rw [Nat.toDigits_eq_if (by decide)]
    split
    · exact ⟨_, _, rfl, fun zero => by rw [Nat.digitChar_eq_zero] at zero; omega⟩
    · obtain ⟨f, more, digits, lead⟩ := ih (n / 10) (by omega) (by omega)
      exact ⟨f, more ++ _, by rw [digits]; rfl, lead⟩

theorem toString_bytes (n : Nat) :
    (toString n).toUTF8.toList = (Nat.toDigits 10 n).map fun d => UInt8.ofNat d.toNat := by
  rw [toUTF8_toList, Nat.toString_eq_repr, Nat.toList_repr]
  exact flatMap_ascii _ fun d mem => by
    have := digit_range (isDigit_of_mem_toDigits mem)
    omega

theorem isDigitByte_of_isDigit {d : Char} (h : d.isDigit) :
    isDigitByte (UInt8.ofNat d.toNat) = true := by
  have := digit_range h
  simp only [isDigitByte, toNat_byte (by omega : d.toNat < 256), Bool.and_eq_true, decide_eq_true_eq]
  omega

theorem integerDigits_digits (positive : Bool) (t : List UInt8)
    (stop : ∀ b ∈ t.head?, isDigitByte b = false) :
    ∀ (ds : List Char) (acc : Nat) (c : Cursor), (∀ d ∈ ds, d.isDigit) →
      c.rest = ds.map (fun d => UInt8.ofNat d.toNat) ++ t →
      Nat.ofDigitChars 10 ds acc ≤ u64Limit →
      ∃ e : Cursor, e.rest = t ∧
        integerDigits positive acc c = integerEnd positive (Nat.ofDigitChars 10 ds acc) e := by
  intro ds
  induction ds with
  | nil =>
    intro acc c _ h _
    refine ⟨c, h, ?_⟩
    rw [integerDigits]
    split
    · rename_i b _ at_b
      rw [h, List.map_nil, List.nil_append] at at_b
      rw [if_neg (by rw [stop b (by simp [at_b])]; decide)]
      rfl
    · rfl
  | cons d ds ih =>
    intro acc c digits h fits
    have range := digit_range (digits d (List.mem_cons_self ..))
    have byte : (UInt8.ofNat d.toNat).toNat = d.toNat := toNat_byte (by omega)
    have step : Nat.ofDigitChars 10 (d :: ds) acc =
        Nat.ofDigitChars 10 ds (acc * 10 + (d.toNat - 48)) := by
      rw [Nat.ofDigitChars_cons, Nat.mul_comm]
      rfl
    -- the number read so far never exceeds the whole number
    have within : acc * 10 + (d.toNat - 48) ≤ Nat.ofDigitChars 10 ds (acc * 10 + (d.toNat - 48)) := by
      rw [Nat.ofDigitChars_eq_ofDigitChars_zero]
      have := Nat.one_le_pow ds.length 10 (by decide)
      exact Nat.le_add_right_of_le (Nat.le_mul_of_pos_left _ this)
    obtain ⟨e, rest, run⟩ := ih (acc * 10 + (d.toNat - 48)) c.advance
      (fun x mem => digits x (List.mem_cons_of_mem _ mem)) (by rw [Cursor.advance_rest, h]; rfl)
      (step ▸ fits)
    refine ⟨e, rest, ?_⟩
    rw [integerDigits]
    split
    · rename_i b _ at_b
      rw [h, List.map_cons, List.cons_append] at at_b
      cases at_b
      dsimp only
      rw [if_pos (isDigitByte_of_isDigit (digits d (List.mem_cons_self ..))), byte,
        passes_eq_false (by omega) (by rw [step] at fits; omega), if_neg (by decide), run, step]
    · rename_i at_nil
      rw [h] at at_nil
      cases at_nil

theorem integerEnd_nat (n : Nat) (c : Cursor) (after : AfterValue c.rest) :
    integerEnd true n c = .ok (.nat n, c) := by
  unfold integerEnd
  cases h : c.rest with
  | nil => rfl
  | cons b t =>
    rw [h] at after
    rcases after b rfl with rfl | rfl | rfl <;> rfl

theorem integerEnd_neg (m : Nat) (c : Cursor) (after : AfterValue c.rest) (pos : 0 < m)
    (fits : m ≤ 2 ^ 63) : integerEnd false m c = .ok (.int (-(m : Int)), c) := by
  have small : ¬ (m = 0 ∨ m > 2 ^ 63) := by omega
  unfold integerEnd
  cases h : c.rest with
  | nil => exact if_neg small
  | cons b t =>
    rw [h] at after
    rcases after b rfl with rfl | rfl | rfl <;> exact if_neg small

theorem readNumber_digits (positive : Bool) (n : Nat) (c : Cursor) (t : List UInt8)
    (h : c.rest = (toString n).toUTF8.toList ++ t) (after : AfterValue t) (fits : n ≤ u64Limit) :
    ∃ e : Cursor, e.rest = t ∧ readNumber positive c = integerEnd positive n e := by
  have stop : ∀ b ∈ t.head?, isDigitByte b = false := by
    intro b mem
    rcases after b mem with rfl | rfl | rfl <;> rfl
  rw [toString_bytes] at h
  by_cases zero : n = 0
  · subst zero
    refine ⟨c.advance, by rw [Cursor.advance_rest, h]; rfl, ?_⟩
    have next : isDigitByte c.advance.peekOrNull = false := by
      rw [Cursor.peekOrNull, Cursor.advance_rest, h]
      cases t with
      | nil => rfl
      | cons b t => exact stop b rfl
    rw [readNumber, h]
    simp only [Nat.toDigits_zero, List.map_cons, List.map_nil, List.cons_append, List.nil_append]
    rw [if_pos (show UInt8.ofNat '0'.toNat = 48 from rfl), next]
    rfl
  · obtain ⟨f, more, digits, lead⟩ := toDigits_lead (Nat.pos_of_ne_zero zero)
    have isDigit : ∀ d ∈ f :: more, d.isDigit := fun d mem =>
      isDigit_of_mem_toDigits (digits ▸ mem)
    have range := digit_range (isDigit f (List.mem_cons_self ..))
    have notZero : f.toNat ≠ 48 := fun eq => lead (Char.toNat_inj.mp eq)
    have value : Nat.ofDigitChars 10 more (f.toNat - 48) = n := by
      rw [← Nat.ofDigitChars_ten_toDigits (n := n), digits, Nat.ofDigitChars_cons, Nat.mul_zero,
        Nat.zero_add]
      rfl
    rw [digits, List.map_cons, List.cons_append] at h
    obtain ⟨e, rest, run⟩ := integerDigits_digits positive t stop more (f.toNat - 48) c.advance
      (fun d mem => isDigit d (List.mem_cons_of_mem _ mem)) (by rw [Cursor.advance_rest, h]; rfl)
      (by rw [value]; exact fits)
    refine ⟨e, rest, ?_⟩
    have first : UInt8.ofNat f.toNat ≠ 48 := fun eq => notZero (by
      rw [← toNat_byte (by omega : f.toNat < 256), eq]
      rfl)
    rw [readNumber, h]
    simp only [if_neg first, isDigitByte_of_isDigit (isDigit f (List.mem_cons_self ..)), if_true,
      toNat_byte (by omega : f.toNat < 256), run, value]

end LineCoverage.Json
