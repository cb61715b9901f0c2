import LineCoverage.Report.Html
import Mathlib
/-! Escaping text for markup.

A text is escaped by four replacements over the whole text, the ampersand first. No entity
that one replacement writes holds a character that a later one replaces, so the four passes
come to one pass over the characters, each written as its entity or as itself. Escaped text
then holds no `<`, `>` or quote, every ampersand in it begins one of the four entities, and
reading the entities back left to right gives the text: no two texts escape alike.
-/

set_option autoImplicit false

namespace LineCoverage.Report

/-! ## Four replacements are one pass -/

theorem escapeChar_cases (c : Char) :
    (c = '&' ∨ c = '<' ∨ c = '>' ∨ c = '"') ∨
      (c ≠ '&' ∧ c ≠ '<' ∧ c ≠ '>' ∧ c ≠ '"' ∧ escapeChar c = [c]) := by
  by_cases special : c = '&' ∨ c = '<' ∨ c = '>' ∨ c = '"'
  · exact .inl special
  · simp only [not_or] at special
    obtain ⟨amp, lt, gt, quote⟩ := special
    refine .inr ⟨amp, lt, gt, quote, ?_⟩
    unfold escapeChar
    split <;> simp_all

theorem replaceAll_toList (s : String) (c : Char) (r : String) :
    (replaceAll s c r).toList = s.toList.flatMap fun x => if x = c then r.toList else [x] := by
  rw [replaceAll, String.toList_ofList]

/-- Each character goes through the four replacements on its own and comes out as its entity
or as itself. -/
theorem escape_toList (s : String) : (escape s).toList = s.toList.flatMap escapeChar := by
  simp only [escape, replaceAll_toList, List.flatMap_assoc]
  refine List.flatMap_congr fun x _ => ?_
  -- an entity that one replacement writes holds no character that a later one replaces
  rcases escapeChar_cases x with (rfl | rfl | rfl | rfl) | ⟨amp, lt, gt, quote, plain⟩
  case inr =>
    simp only [plain, if_neg amp, if_neg lt, if_neg gt, if_neg quote, List.flatMap_cons,
      List.flatMap_nil, List.append_nil]
  all_goals decide

theorem escape_eq (s : String) : escape s = String.ofList (s.toList.flatMap escapeChar) := by
  rw [← escape_toList, String.ofList_toList]

/-! ## What escaped text holds -/

def entities : List (List Char) := ["&amp;".toList, "&lt;".toList, "&gt;".toList, "&quot;".toList]

theorem escapeChar_entity_or_self (c : Char) :
    escapeChar c ∈ entities ∨ (c ≠ '&' ∧ c ≠ '<' ∧ c ≠ '>' ∧ c ≠ '"' ∧ escapeChar c = [c]) := by
  rcases escapeChar_cases c with (rfl | rfl | rfl | rfl) | plain
  case inr => exact .inr plain
  all_goals decide

theorem markup_not_mem_entity {m : Char} (markup : m = '<' ∨ m = '>' ∨ m = '"') {e : List Char}
    (entity : e ∈ entities) : m ∉ e := by
  simp only [entities, List.mem_cons, List.not_mem_nil, or_false] at entity
  rcases markup with rfl | rfl | rfl <;> rcases entity with rfl | rfl | rfl | rfl <;> decide

theorem markup_not_mem_escape {m : Char} (markup : m = '<' ∨ m = '>' ∨ m = '"') (s : String) :
    m ∉ (escape s).toList := by
  rw [escape_toList, List.mem_flatMap]
  rintro ⟨c, -, written⟩
  rcases escapeChar_entity_or_self c with entity | ⟨-, notLt, notGt, notQuote, plain⟩
  · exact markup_not_mem_entity markup entity written
  · rw [plain, List.mem_singleton] at written
    subst written
    rcases markup with rfl | rfl | rfl <;> contradiction

def AmpersandsOpenEntities (l : List Char) : Prop :=
  ∀ i, l[i]? = some '&' → ∃ e ∈ entities, e <+: l.drop i

theorem AmpersandsOpenEntities.append {l m : List Char} (left : AmpersandsOpenEntities l)
    (right : AmpersandsOpenEntities m) : AmpersandsOpenEntities (l ++ m) := by
  intro i found
  by_cases inLeft : i < l.length
  · rw [List.getElem?_append_left inLeft] at found
    obtain ⟨e, entity, opens⟩ := left i found
    refine ⟨e, entity, ?_⟩
    rw [List.drop_append_of_le_length (by omega)]
    exact opens.trans (List.prefix_append _ _)
  · obtain ⟨j, rfl⟩ : ∃ j, i = l.length + j := ⟨i - l.length, by omega⟩
    rw [List.getElem?_append_right (by omega), Nat.add_sub_cancel_left] at found
    obtain ⟨e, entity, opens⟩ := right j found
    refine ⟨e, entity, ?_⟩
    rwa [List.drop_append, List.drop_eq_nil_of_le (by omega), List.nil_append,
      Nat.add_sub_cancel_left]

theorem ampersandsOpenEntities_of_not_mem {l : List Char} (absent : '&' ∉ l) :
    AmpersandsOpenEntities l :=
  fun _ found => absurd (List.mem_of_getElem? found) absent

theorem ampersandsOpenEntities_of_entity {e : List Char} (entity : e ∈ entities) :
    AmpersandsOpenEntities e := by
  obtain ⟨tail, rfl, plain⟩ : ∃ tail, e = '&' :: tail ∧ '&' ∉ tail := by
    simp only [entities, List.mem_cons, List.not_mem_nil, or_false] at entity
    rcases entity with rfl | rfl | rfl | rfl <;> exact ⟨_, rfl, by decide⟩
  intro i found
  cases i with
  | zero => exact ⟨_, entity, List.prefix_refl _⟩
  | succ j =>
    rw [List.getElem?_cons_succ] at found
    exact absurd (List.mem_of_getElem? found) plain

theorem ampersandsOpenEntities_escape (s : String) : AmpersandsOpenEntities (escape s).toList := by
  rw [escape_toList]
  induction s.toList with
  | nil => exact ampersandsOpenEntities_of_not_mem List.not_mem_nil
  | cons c rest ih =>
    rw [List.flatMap_cons]
    refine AmpersandsOpenEntities.append ?_ ih
    rcases escapeChar_entity_or_self c with entity | ⟨notAmp, -, -, -, plain⟩
    · exact ampersandsOpenEntities_of_entity entity
    · rw [plain]
      exact ampersandsOpenEntities_of_not_mem (by simpa [eq_comm] using notAmp)

/-! ## Reading the entities back -/

/-- Reads the four entities back left to right; everything else stands for itself. -/
def unescape : List Char → List Char
  | '&' :: 'a' :: 'm' :: 'p' :: ';' :: rest => '&' :: unescape rest
  | '&' :: 'l' :: 't' :: ';' :: rest => '<' :: unescape rest
  | '&' :: 'g' :: 't' :: ';' :: rest => '>' :: unescape rest
  | '&' :: 'q' :: 'u' :: 'o' :: 't' :: ';' :: rest => '"' :: unescape rest
  | c :: rest => c :: unescape rest
  | [] => []

theorem unescape_cons {c : Char} (plain : c ≠ '&') (rest : List Char) :
    unescape (c :: rest) = c :: unescape rest := by
  conv_lhs => unfold unescape
  split <;> simp_all

theorem unescape_escapeChar (c : Char) (rest : List Char) :
    unescape (escapeChar c ++ rest) = c :: unescape rest := by
  rcases escapeChar_cases c with (rfl | rfl | rfl | rfl) | ⟨amp, -, -, -, plain⟩
  any_goals rfl
  rw [plain, List.singleton_append, unescape_cons amp]

theorem unescape_flatMap_escapeChar (cs : List Char) : unescape (cs.flatMap escapeChar) = cs := by
  induction cs with
  | nil => rfl
  | cons c rest ih => rw [List.flatMap_cons, unescape_escapeChar, ih]

theorem unescape_escape (s : String) : unescape (escape s).toList = s.toList := by
  rw [escape_toList, unescape_flatMap_escapeChar]

theorem escape_injective : Function.Injective escape := fun s t same => by
  apply String.ext
  rw [← unescape_escape s, ← unescape_escape t, same]

/-- Escaping writes each character as its entity or as itself, in one pass: the four
replacements, the ampersand first, come to the map of `escapeChar`. Escaped text holds no `<`,
`>` or quote, each of its ampersands begins an entity, and reading the entities back left to
right gives the text, so no two texts escape alike. -/
theorem escape_entity_encoding :
    (∀ s, escape s = String.ofList (s.toList.flatMap escapeChar)) ∧
      (∀ s, '<' ∉ (escape s).toList ∧ '>' ∉ (escape s).toList ∧ '"' ∉ (escape s).toList) ∧
      (∀ s, AmpersandsOpenEntities (escape s).toList) ∧
      (∀ s, unescape (escape s).toList = s.toList) ∧
      Function.Injective escape :=
  ⟨escape_eq,
    fun s => ⟨markup_not_mem_escape (.inl rfl) s, markup_not_mem_escape (.inr (.inl rfl)) s,
      markup_not_mem_escape (.inr (.inr rfl)) s⟩,
    ampersandsOpenEntities_escape, unescape_escape, escape_injective⟩

/-- Text that already looks like an entity is escaped again, and so reads back as itself. -/
example : escape "&amp;" = "&amp;amp;" := by decide

end LineCoverage.Report
