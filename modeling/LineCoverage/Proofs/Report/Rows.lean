import LineCoverage.Proofs.Report.Escape
import LineCoverage.Proofs.Path.Components
import Mathlib
/-! The rows of an HTML page as a table parser finds them: a row opens at every `<tr` and
runs to the first `</tr>` after it.

A page is a chain of pieces: the markup the report writes, and the texts it puts between
(escaped data, numbers, the stylesheet). The lemmas here read the rows of such a chain one
piece at a time. A piece in which no `<tr` (or `</tr>`) can start is passed over whole;
`Free` says so, also of an occurrence that would run past the piece's end, so that freeness
survives concatenation. Texts without a `<` are free of every marker, and that is all the
scanning needs to know about them.
-/

set_option autoImplicit false

namespace LineCoverage.Report

def rowOpen : List Char := ['<', 't', 'r']

def rowClose : List Char := ['<', '/', 't', 'r', '>']

/-- The row that opens at the start of a text: up to and including the first `</tr>`, or
the whole text when no `</tr>` follows. -/
def rowText : List Char → List Char
  | [] => []
  | c :: rest => if rowClose <+: c :: rest then rowClose else c :: rowText rest

/-- The rows of a page, one for every `<tr` in it, in order. -/
def rows : List Char → List (List Char)
  | [] => []
  | c :: rest => if rowOpen <+: c :: rest then rowText (c :: rest) :: rows rest else rows rest

@[simp] theorem rows_nil : rows [] = [] := rfl

theorem length_rows (t : List Char) : (rows t).length = t.tails.countP (rowOpen <+: ·) := by
  induction t with
  | nil => decide
  | cons c rest ih =>
    rw [rows, List.tails_cons, List.countP_cons, ← ih]
    split <;> simp_all

/-- No occurrence of `pat` starts inside `t`, not even one that would run on past its end. -/
def Free (pat t : List Char) : Prop := ∀ u ∈ t.tails, u ≠ [] → ¬ pat <+: u ∧ ¬ u <+: pat

instance (pat t : List Char) : Decidable (Free pat t) :=
  inferInstanceAs (Decidable (∀ u ∈ t.tails, u ≠ [] → ¬ pat <+: u ∧ ¬ u <+: pat))

example : rows "<p><tr><td>a</td></tr>\n<tr>b".toList = ["<tr><td>a</td></tr>".toList, "<tr>b".toList] := by
  decide +kernel

/-! ## Freeness -/

section Freeness

variable {pat : List Char}

theorem free_nil : Free pat [] := by
  simp [Free]

theorem free_cons {c : Char} {t : List Char} :
    Free pat (c :: t) ↔ ¬ pat <+: c :: t ∧ ¬ c :: t <+: pat ∧ Free pat t := by
  simp only [Free, List.tails, List.forall_mem_cons, ne_eq, reduceCtorEq, not_false_eq_true,
    forall_const, and_assoc]

theorem Free.not_prefix_append {c : Char} {a : List Char} (free : Free pat (c :: a))
    (b : List Char) : ¬ pat <+: c :: a ++ b := by
  obtain ⟨inside, short, -⟩ := free_cons.mp free
  intro pre
  rcases List.prefix_or_prefix_of_prefix pre (List.prefix_append _ _) with h | h
  · exact inside h
  · exact short h

theorem Free.append {a b : List Char} (fa : Free pat a) (fb : Free pat b) : Free pat (a ++ b) := by
  induction a with
  | nil => exact fb
  | cons c rest ih =>
    obtain ⟨-, short, tail⟩ := free_cons.mp fa
    refine free_cons.mpr ⟨fa.not_prefix_append b, fun longer => short ?_, ih tail⟩
    exact (List.prefix_append _ _).trans longer

theorem Free.flatMap {α : Type} {xs : List α} {f : α → List Char}
    (free : ∀ x ∈ xs, Free pat (f x)) : Free pat (xs.flatMap f) := by
  induction xs with
  | nil => exact free_nil
  | cons x rest ih =>
    rw [List.flatMap_cons]
    exact (free x List.mem_cons_self).append (ih fun y mem => free y (List.mem_cons_of_mem _ mem))

theorem Free.not_infix (ne : pat ≠ []) {t : List Char} (free : Free pat t) : ¬ pat <:+: t := by
  induction t with
  | nil => exact fun inf => ne (List.eq_nil_of_infix_nil inf)
  | cons c rest ih =>
    obtain ⟨inside, -, tail⟩ := free_cons.mp free
    rw [List.infix_cons_iff, not_or]
    exact ⟨inside, ih tail⟩

theorem free_of_not_mem {a : Char} (hp : pat.head? = some a) {t : List Char} (h : a ∉ t) :
    Free pat t := by
  obtain ⟨tail, rfl⟩ : ∃ tail, pat = a :: tail := by
    cases pat with
    | nil => cases hp
    | cons d tail => exact ⟨tail, by rw [List.head?_cons, Option.some.injEq] at hp; rw [hp]⟩
  induction t with
  | nil => exact free_nil
  | cons c rest ih =>
    rw [List.mem_cons, not_or] at h
    refine free_cons.mpr ⟨fun pre => h.1 (List.cons_prefix_cons.mp pre).1, fun pre => h.1 ?_, ih h.2⟩
    exact (List.cons_prefix_cons.mp pre).1.symm

end Freeness

/-! ## Reading rows piece by piece -/

theorem rows_append_of_free {a : List Char} (b : List Char) (free : Free rowOpen a) :
    rows (a ++ b) = rows b := by
  induction a with
  | nil => rfl
  | cons c rest ih =>
    rw [List.cons_append, rows, ← List.cons_append, if_neg (free.not_prefix_append b),
      ih (free_cons.mp free).2.2]

theorem rowText_append_of_free {a : List Char} (b : List Char) (free : Free rowClose a) :
    rowText (a ++ b) = a ++ rowText b := by
  induction a with
  | nil => rfl
  | cons c rest ih =>
    rw [List.cons_append, rowText, ← List.cons_append, if_neg (free.not_prefix_append b),
      ih (free_cons.mp free).2.2]
    rfl

theorem rowText_close_append {a : List Char} (b : List Char) (closes : rowClose <:+: a) :
    rowText (a ++ b) = rowText a := by
  induction a with
  | nil => simp [rowClose] at closes
  | cons c rest ih =>
    rw [List.cons_append, rowText, rowText, ← List.cons_append]
    by_cases here : rowClose <+: c :: rest
    · rw [if_pos (here.trans (List.prefix_append _ _)), if_pos here]
    · have later : rowClose <:+: rest := (List.infix_cons_iff.mp closes).resolve_left here
      rw [if_neg here, ih later, if_neg]
      intro pre
      rcases List.prefix_or_prefix_of_prefix pre (List.prefix_append _ _) with inside | short
      · exact here inside
      -- the close lies inside the piece, so the piece is no shorter than the close
      · exact here ((short.eq_of_length (Nat.le_antisymm short.length_le
          (closes.length_le))) ▸ List.prefix_refl _)

/-! The same steps for a piece of markup written out as its characters, so that the side
conditions are closed terms that `decide` settles. -/

theorem rows_markup_append {c : Char} {a : List Char} (b : List Char) (free : Free rowOpen (c :: a)) :
    rows (c :: a ++ b) = rows b :=
  rows_append_of_free b free

theorem rows_open_markup_append {c : Char} {a : List Char} (b : List Char)
    (opens : rowOpen <+: c :: a) : rows (c :: a ++ b) = rowText (c :: a ++ b) :: rows (a ++ b) := by
  rw [List.cons_append, rows, ← List.cons_append, if_pos (opens.trans (List.prefix_append _ _))]

/-- Markup that cannot be passed over whole (it opens a row further on) is read one character
at a time up to that point. -/
theorem rows_skip_markup_append {c : Char} {a : List Char} (b : List Char)
    (_ : ¬ Free rowOpen (c :: a)) (here : ¬ rowOpen <+: c :: a) (short : ¬ c :: a <+: rowOpen) :
    rows (c :: a ++ b) = rows (a ++ b) := by
  rw [List.cons_append, rows, ← List.cons_append, if_neg]
  intro pre
  rcases List.prefix_or_prefix_of_prefix pre (List.prefix_append _ _) with inside | longer
  · exact here inside
  · exact short longer

theorem rowText_markup_append {c : Char} {a : List Char} (b : List Char)
    (free : Free rowClose (c :: a)) : rowText (c :: a ++ b) = c :: a ++ rowText b :=
  rowText_append_of_free b free

theorem rowText_close_markup_append {c : Char} {a : List Char} (b : List Char)
    (closes : rowClose <:+: c :: a) : rowText (c :: a ++ b) = rowText (c :: a) :=
  rowText_close_append b closes

theorem rowText_of_prefix {c : Char} {l : List Char} (h : rowClose <+: c :: l) :
    rowText (c :: l) = rowClose := by
  rw [rowText, if_pos h]

theorem rowText_cons_of_not_prefix {c : Char} {l : List Char} (h : ¬ rowClose <+: c :: l) :
    rowText (c :: l) = c :: rowText l := by
  rw [rowText, if_neg h]

theorem rows_plain_append {a : List Char} (b : List Char) (plain : '<' ∉ a) :
    rows (a ++ b) = rows b :=
  rows_append_of_free b (free_of_not_mem rfl plain)

theorem rowText_plain_append {a : List Char} (b : List Char) (plain : '<' ∉ a) :
    rowText (a ++ b) = a ++ rowText b :=
  rowText_append_of_free b (free_of_not_mem rfl plain)

theorem rows_flatMap_append {α : Type} (xs : List α) (f : α → List Char) (g : α → List (List Char))
    (b : List Char) (each : ∀ x ∈ xs, ∀ b, rows (f x ++ b) = g x ++ rows b) :
    rows (xs.flatMap f ++ b) = xs.flatMap g ++ rows b := by
  induction xs with
  | nil => rfl
  | cons x rest ih =>
    rw [List.flatMap_cons, List.append_assoc, each x List.mem_cons_self,
      ih fun y mem => each y (List.mem_cons_of_mem _ mem), List.flatMap_cons, List.append_assoc]

/-! ## The texts between the markup -/

section Plain

theorem lt_not_mem_escape (s : String) : '<' ∉ (escape s).toList :=
  markup_not_mem_escape (.inl rfl) s

theorem lt_not_mem_digits (n : Nat) : '<' ∉ Nat.toDigits 10 n := fun mem => by
  have digit := Nat.isDigit_of_mem_toDigits (by decide) (by decide) mem
  revert digit
  decide

theorem lt_not_mem_repr (n : Nat) : '<' ∉ n.repr.toList := by
  rw [Nat.toList_repr]
  exact lt_not_mem_digits n

theorem lt_not_mem_toString (n : Nat) : '<' ∉ (toString n).toList :=
  lt_not_mem_repr n

theorem lt_not_mem_padDigits (width n : Nat) : '<' ∉ Decimal.padDigits width n := by
  rw [Decimal.padDigits, List.mem_append, not_or]
  exact ⟨fun mem => absurd (List.eq_of_mem_replicate mem) (by decide), lt_not_mem_digits n⟩

theorem lt_not_mem_formatPercent (x : Float) : '<' ∉ (formatPercent x).toList := by
  have point : ∀ n, '<' ∉ (Decimal.pointAt 2 n).toList := by
    intro n
    rw [Decimal.pointAt, if_neg (by decide)]
    simp only [String.toList_append, String.toList_ofList, List.mem_append, not_or]
    have digits := lt_not_mem_padDigits 3 n
    exact ⟨⟨fun mem => digits (List.mem_of_mem_take mem), by decide⟩,
      fun mem => digits (List.mem_of_mem_drop mem)⟩
  have sign : ∀ b : UInt64, '<' ∉ (if Decimal.negativeBits b then "-" else "").toList := by
    intro b
    split <;> decide
  unfold formatPercent Decimal.fixedText
  simp only [String.toList_append, List.mem_append, not_or]
  refine ⟨?_, by decide⟩
  split
  · decide
  split <;> rw [String.toList_append, List.mem_append, not_or]
  · exact ⟨sign _, by decide⟩
  · exact ⟨sign _, point _⟩

theorem lt_not_mem_formatAverage (v : Nat) : '<' ∉ (formatAverage v).toList := by
  simp only [formatAverage, String.toList_append, String.toList_ofList, List.mem_append, not_or]
  exact ⟨⟨lt_not_mem_toString _, by decide⟩, lt_not_mem_padDigits 2 _⟩

theorem lt_not_mem_hex (bs : List UInt8) : '<' ∉ (Digest.hex bs).toList := by
  have digit : ∀ n < 16, Digest.hexDigit n ≠ '<' := by decide
  simp only [Digest.hex, String.toList_ofList, List.mem_flatMap, List.mem_cons, List.not_mem_nil,
    or_false, not_exists, not_and]
  intro b _ same
  have small := b.toNat_lt
  rcases same with high | low
  · exact digit (b.toNat / 16) (by omega) high.symm
  · exact digit (b.toNat % 16) (by omega) low.symm

theorem lt_not_mem_gravatarUrl (email : String) : '<' ∉ (gravatarUrl email).toList := by
  unfold gravatarUrl
  simp only [toString, String.toList_append, List.mem_append, not_or]
  refine ⟨⟨?_, lt_not_mem_hex _⟩, ?_⟩ <;> rw [String.toList_ofList] <;> decide

theorem lt_not_mem_stylesheet : '<' ∉ stylesheet.toList := by
  rw [stylesheet, String.toList_intercalate]
  refine Text.not_mem_intercalate (by decide) ?_
  simp only [List.map_cons, List.map_nil]
  -- every line of the sheet is a literal: read its characters off the literal itself
  repeat rw [String.toList_ofList]
  decide

end Plain

/-! ## The statistics cells

The cells of a table row hold markup of their own (`<td>`, `<span>`), but never a row
marker nor a link. -/

section Cells

def markers : List (List Char) := [rowOpen, rowClose, ['<', 'a', ' ']]

theorem free_deltaCells {α : Type} {pat : List Char} (marker : pat ∈ markers) (d : Delta α)
    (conv : α → String) (extra : Option String) (hconv : ∀ v, '<' ∉ (conv v).toList)
    (hextra : ∀ e ∈ extra, '<' ∉ e.toList) : Free pat (deltaCells d conv extra).toList := by
  have plain : ∀ {t}, '<' ∉ t → Free pat t := by
    simp only [markers, List.mem_cons, List.not_mem_nil, or_false] at marker
    exact free_of_not_mem (by rcases marker with rfl | rfl | rfl <;> rfl)
  have literal : ∀ {t}, (∀ q ∈ markers, Free q t) → Free pat t := fun each => each pat marker
  have name : '<' ∉ d.trend.name.toList ∧ '<' ∉ d.trend.sign.toList := by
    cases d.trend <;> decide
  have cls : '<' ∉ ((extra.map (" " ++ ·)).getD "").toList := by
    cases extra with
    | none => decide
    | some e =>
      simp only [Option.map_some, Option.getD_some, String.toList_append, List.mem_append, not_or]
      exact ⟨by decide, hextra e rfl⟩
  have diff : Free pat (if d.trend.sign.isEmpty then ""
      else "<span class=\"diff\">" ++ d.trend.sign ++ conv d.magnitude ++ "</span>").toList := by
    split
    · exact free_nil
    simp only [String.toList_append]
    refine ((literal ?_).append (plain name.2)).append (plain (hconv _)) |>.append (literal ?_) <;>
      rw [String.toList_ofList] <;> decide
  unfold deltaCells indicator
  simp only [toString, String.toList_append]
  -- split the row into its pieces; matching only up to reducible unfolding keeps the
  -- literals from being unfolded into their characters while searching
  repeat' with_reducible apply Free.append
  all_goals first
    | with_reducible exact plain (hconv _) | with_reducible exact plain name.1
    | with_reducible exact plain cls | with_reducible exact diff
    | (apply literal; rw [String.toList_ofList]; decide +kernel)

theorem free_statsCells {pat : List Char} (marker : pat ∈ markers) (s : Stats) (d : StatsDelta) :
    Free pat (statsCells s d).toList := by
  have none_plain : ∀ e ∈ (none : Option String), '<' ∉ e.toList := fun _ mem => nomatch mem
  have some_plain : ∀ {t : String}, '<' ∉ t.toList → ∀ e ∈ some t, '<' ∉ e.toList := by
    intro t plain e mem
    rw [Option.mem_some_iff] at mem
    exact mem ▸ plain
  have coverage : '<' ∉ ("cov cov-" ++ s.severity.name).toList := by
    rw [String.toList_append, List.mem_append, not_or]
    exact ⟨by decide, by cases s.severity <;> decide⟩
  have missed : '<' ∉ (if s.missedLines = 0 then "missed missed-nothing"
      else "missed missed-lines").toList := by
    split <;> decide
  dsimp only [statsCells]
  rw [String.toList_join]
  apply Free.flatMap
  simp only [List.mem_cons, List.not_mem_nil, or_false]
  rintro x (rfl | rfl | rfl | rfl | rfl | rfl)
  · exact free_deltaCells marker _ _ _ lt_not_mem_formatPercent (some_plain coverage)
  · exact free_deltaCells marker _ _ _ lt_not_mem_toString none_plain
  · exact free_deltaCells marker _ _ _ lt_not_mem_toString none_plain
  · exact free_deltaCells marker _ _ _ lt_not_mem_toString none_plain
  · exact free_deltaCells marker _ _ _ lt_not_mem_toString (some_plain missed)
  · exact free_deltaCells marker _ _ _ lt_not_mem_formatAverage none_plain

theorem rows_statsCells_append (s : Stats) (d : StatsDelta) (b : List Char) :
    rows ((statsCells s d).toList ++ b) = rows b :=
  rows_append_of_free b (free_statsCells List.mem_cons_self s d)

theorem rowText_statsCells_append (s : Stats) (d : StatsDelta) (b : List Char) :
    rowText ((statsCells s d).toList ++ b) = (statsCells s d).toList ++ rowText b :=
  rowText_append_of_free b (free_statsCells (List.mem_cons_of_mem _ List.mem_cons_self) s d)

end Cells

end LineCoverage.Report
