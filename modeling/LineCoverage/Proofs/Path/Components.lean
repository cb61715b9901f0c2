import LineCoverage.Path
import Mathlib
/-! Reading paths back from their components.

Pieces cut at slashes and joined by slashes give each other back, as long as no piece holds a
slash. Every component of a path after the first is such a piece, so the name a path has
below a root, joined to that root, reads as the root's components followed by the name's, and
has that same name below the root again. An empty root is the one case where the name may
start with the root or `.` component itself.

Components ignore doubled slashes, an interior `.` and a trailing slash, and a path has a name
below a root exactly when the root's components are a proper prefix of its own.
-/

set_option autoImplicit false

namespace LineCoverage.Text

theorem splitAll_ne_nil (sep : Char) (cs : List Char) : splitAll sep cs ≠ [] := by
  cases cs with
  | nil => simp [splitAll]
  | cons c rest =>
    simp only [splitAll]
    split <;> (try split) <;> simp

theorem splitAll_append_sep (sep : Char) (a b : List Char) :
    splitAll sep (a ++ sep :: b) = splitAll sep a ++ splitAll sep b := by
  induction a with
  | nil =>
    obtain ⟨p, more, split⟩ := List.exists_cons_of_ne_nil (splitAll_ne_nil sep b)
    simp [splitAll, split]
  | cons c a ih =>
    obtain ⟨p, more, split⟩ := List.exists_cons_of_ne_nil (splitAll_ne_nil sep a)
    simp only [List.cons_append, splitAll, ih, split]
    split <;> simp

theorem splitAll_of_not_mem {sep : Char} {cs : List Char} (absent : sep ∉ cs) :
    splitAll sep cs = [cs] := by
  induction cs with
  | nil => rfl
  | cons c rest ih =>
    simp only [List.mem_cons, not_or] at absent
    simp [splitAll, ih absent.2, Ne.symm absent.1]

theorem splitAll_intercalate {sep : Char} {ts : List (List Char)} (nonempty : ts ≠ []) :
    splitAll sep ([sep].intercalate ts) = ts.flatMap (splitAll sep) := by
  induction ts with
  | nil => exact absurd rfl nonempty
  | cons t rest ih =>
    cases rest with
    | nil => simp
    | cons u more =>
      rw [List.intercalate_cons_cons, List.append_assoc, List.singleton_append,
        splitAll_append_sep, ih (by simp)]
      simp

theorem not_mem_of_mem_splitAll {sep : Char} {cs t : List Char} (member : t ∈ splitAll sep cs) :
    sep ∉ t := by
  induction cs generalizing t with
  | nil => simp_all [splitAll]
  | cons c rest ih =>
    obtain ⟨p, more, split⟩ := List.exists_cons_of_ne_nil (splitAll_ne_nil sep rest)
    simp only [splitAll, split] at member
    rw [split] at ih
    by_cases same : c = sep
    · simp only [same, if_true, List.mem_cons] at member
      rcases member with rfl | member
      · simp
      · exact ih (List.mem_cons.mpr member)
    · simp only [same, if_false, List.mem_cons] at member
      rcases member with rfl | member
      · simp only [List.mem_cons, not_or]
        exact ⟨Ne.symm same, ih List.mem_cons_self⟩
      · exact ih (List.mem_cons_of_mem _ member)

theorem not_mem_intercalate {c : Char} {sep : List Char} {ls : List (List Char)} (hs : c ∉ sep)
    (hl : ∀ l ∈ ls, c ∉ l) : c ∉ sep.intercalate ls := by
  induction ls with
  | nil => simp
  | cons l rest ih =>
    cases rest with
    | nil => simpa using hl
    | cons m rest =>
      rw [List.intercalate_cons_cons]
      simp only [List.mem_cons, forall_eq_or_imp] at hl
      simp only [List.mem_append, not_or]
      exact ⟨⟨hl.1, hs⟩, ih (by simpa using hl.2)⟩

end LineCoverage.Text

namespace LineCoverage.Path

/-! ## Pieces -/

theorem pieces_ne_nil (p : String) : pieces p ≠ [] := by
  simpa [pieces] using Text.splitAll_ne_nil '/' p.toList

theorem pieces_empty : pieces "" = [""] := rfl

theorem ne_empty_of_pieces {p : String} (split : pieces p ≠ [""]) : p ≠ "" := by
  rintro rfl
  exact split pieces_empty

theorem not_mem_of_mem_pieces {p t : String} (member : t ∈ pieces p) : '/' ∉ t.toList := by
  obtain ⟨u, listed, rfl⟩ := List.mem_map.mp member
  simpa using Text.not_mem_of_mem_splitAll listed

theorem pieces_append_slash (a b : String) : pieces (a ++ "/" ++ b) = pieces a ++ pieces b := by
  simp [pieces, String.toList_append, Text.splitAll_append_sep]

/-! ## Plain components -/

/-- A component written as one piece without a slash, that reads back as itself. -/
def Component.Plain (c : Component) : Prop := classify c.text = some c ∧ '/' ∉ c.text.toList

theorem text_of_classify {piece : String} {c : Component} (found : classify piece = some c) :
    c.text = piece := by
  unfold classify at found
  split at found
  · cases found
  · split at found
    · cases found
      rename_i parent
      exact parent.symm
    · cases found
      rfl

theorem plain_of_classify {piece : String} {c : Component} (found : classify piece = some c)
    (absent : '/' ∉ piece.toList) : c.Plain := by
  rw [Component.Plain, text_of_classify found]
  exact ⟨found, absent⟩

theorem plain_of_mem_filterMap {ps : List String} (pieceless : ∀ t ∈ ps, '/' ∉ t.toList)
    {c : Component} (member : c ∈ ps.filterMap classify) : c.Plain := by
  obtain ⟨piece, listed, found⟩ := List.mem_filterMap.mp member
  exact plain_of_classify found (pieceless piece listed)

theorem filterMap_classify_text {cs : List Component} (plain : ∀ c ∈ cs, c.Plain) :
    (cs.map Component.text).filterMap classify = cs := by
  induction cs with
  | nil => rfl
  | cons c rest ih =>
    simp only [List.mem_cons, forall_eq_or_imp] at plain
    simp [plain.1.1, ih plain.2]

theorem classify_isSome {piece : String} (empty : piece ≠ "") (dot : piece ≠ ".") :
    ∃ c, classify piece = some c := by
  by_cases parent : piece = ".."
  · exact ⟨.parent, by simp [classify, parent]⟩
  · exact ⟨.normal piece, by simp [classify, empty, dot, parent]⟩

/-! ## The components of a path -/

/-- The components of a path's pieces, for a path that is not empty: a first piece that is
empty makes it absolute, a first piece `.` keeps it. -/
def leadComponents : List String → List Component
  | "" :: rest => .root :: rest.filterMap classify
  | "." :: rest => .current :: rest.filterMap classify
  | ps => ps.filterMap classify

theorem components_eq_lead {p : String} (nonempty : p ≠ "") :
    components p = leadComponents (pieces p) := by
  unfold components leadComponents
  split <;> simp_all

theorem leadComponents_append {ps : List String} (qs : List String) (nonempty : ps ≠ []) :
    leadComponents (ps ++ qs) = leadComponents ps ++ qs.filterMap classify := by
  obtain ⟨p, rest, rfl⟩ := List.exists_cons_of_ne_nil nonempty
  by_cases empty : p = ""
  · subst empty; simp [leadComponents]
  by_cases dot : p = "."
  · subst dot; simp [leadComponents]
  · simp [leadComponents, empty, dot]
    rw [← List.cons_append, List.filterMap_append]

theorem components_empty : components "" = [] := rfl

theorem components_ne_nil {p : String} (nonempty : p ≠ "") : components p ≠ [] := by
  rw [components_eq_lead nonempty]
  obtain ⟨first, rest, split⟩ := List.exists_cons_of_ne_nil (pieces_ne_nil p)
  rw [split]
  by_cases empty : first = ""
  · simp [empty, leadComponents]
  by_cases dot : first = "."
  · simp [dot, leadComponents]
  · obtain ⟨c, found⟩ := classify_isSome empty dot
    simp [leadComponents, empty, dot, List.filterMap_cons_some found]

theorem plain_of_mem_tail {p : String} {c : Component} (member : c ∈ (components p).tail) :
    c.Plain := by
  have pieceless : ∀ t ∈ pieces p, '/' ∉ t.toList := fun t member => not_mem_of_mem_pieces member
  unfold components at member
  split at member
  · rename_i rest split
    split at member
    · simp at member
    · rw [split] at pieceless
      exact plain_of_mem_filterMap (fun t (listed : t ∈ rest) => pieceless t (List.mem_cons_of_mem _ listed))
        (by simpa using member)
  · rename_i rest split
    rw [split] at pieceless
    exact plain_of_mem_filterMap (fun t (listed : t ∈ rest) => pieceless t (List.mem_cons_of_mem _ listed))
        (by simpa using member)
  · exact plain_of_mem_filterMap pieceless (List.mem_of_mem_tail member)

/-! ## What the components ignore -/

/-- After a first piece, the pieces that follow a slash add their own components, so an empty
or `.` piece adds none. -/
theorem components_append_slash {a : String} (b : String) (nonempty : a ≠ "") :
    components (a ++ "/" ++ b) = components a ++ (pieces b).filterMap classify := by
  rw [components_eq_lead (by simp [nonempty]), components_eq_lead nonempty, pieces_append_slash,
    leadComponents_append _ (pieces_ne_nil _)]

/-- A doubled slash (an empty piece) and an interior `.` leave the components as they are. -/
theorem components_skip_piece {a q : String} (b : String) (nonempty : a ≠ "")
    (vanishes : q = "" ∨ q = ".") :
    components (a ++ "/" ++ q ++ "/" ++ b) = components (a ++ "/" ++ b) := by
  have split : a ++ "/" ++ q ++ "/" ++ b = a ++ "/" ++ (q ++ "/" ++ b) := by
    simp only [String.append_assoc]
  have single : pieces q = [q] := by rcases vanishes with rfl | rfl <;> rfl
  rw [split, components_append_slash _ nonempty, components_append_slash _ nonempty,
    pieces_append_slash, single]
  rcases vanishes with rfl | rfl <;> simp [classify]

theorem components_append_trailing {a : String} (nonempty : a ≠ "") :
    components (a ++ "/") = components a := by
  have slashed := components_append_slash "" nonempty
  rw [String.append_empty, pieces_empty] at slashed
  simpa [classify] using slashed

/-! ## Writing components back -/

theorem pieces_render {cs : List Component} (nonempty : cs ≠ []) :
    pieces (render "/" cs) = cs.flatMap fun c => pieces c.text := by
  simp only [pieces, render, String.toList_intercalate, List.map_map]
  rw [show "/".toList = ['/'] from rfl, Text.splitAll_intercalate (by simpa using nonempty)]
  simp [List.flatMap_map, List.map_flatMap]

theorem pieces_plain {c : Component} (plain : c.Plain) : pieces c.text = [c.text] := by
  simp [pieces, Text.splitAll_of_not_mem plain.2]

theorem map_text_filterMap {rest : List String} (pieceless : ∀ t ∈ rest, '/' ∉ t.toList) :
    (rest.filterMap classify).flatMap (fun c => pieces c.text) =
      (rest.filterMap classify).map Component.text := by
  rw [List.map_eq_flatMap]
  apply List.flatMap_congr
  intro c member
  exact pieces_plain (plain_of_mem_filterMap pieceless member)

theorem startsWith_render {cs : List Component} (plain : ∀ c ∈ cs, c.Plain) (nonempty : cs ≠ []) :
    (render "/" cs).startsWith "/" = false := by
  obtain ⟨c, rest, rfl⟩ := List.exists_cons_of_ne_nil nonempty
  have first := plain c (by simp)
  obtain ⟨char, more, spelled⟩ : ∃ char more, c.text.toList = char :: more := by
    refine List.exists_cons_of_ne_nil fun empty => ?_
    have : classify c.text = none := by simp [classify, String.toList_eq_nil_iff.mp empty]
    rw [first.1] at this
    cases this
  have notSlash : char ≠ '/' := fun same => first.2 (by simp [spelled, same])
  rw [String.startsWith_string_eq_false_iff]
  cases rest with
  | nil => simp [render, spelled, notSlash.symm]
  | cons d more' => simp [render, String.intercalate_cons_cons, spelled, notSlash.symm]

theorem components_render_components {p : String} (nonempty : p ≠ "") :
    components (render "/" (components p)) = components p := by
  have pieceless : ∀ t ∈ pieces p, '/' ∉ t.toList := fun t member => not_mem_of_mem_pieces member
  rw [components_eq_lead nonempty]
  obtain ⟨first, rest, split⟩ := List.exists_cons_of_ne_nil (pieces_ne_nil p)
  rw [split] at pieceless ⊢
  have later : ∀ t ∈ rest, '/' ∉ t.toList := fun t member => pieceless t (by simp [member])
  by_cases empty : first = ""
  · subst empty
    have written : pieces (render "/" (.root :: rest.filterMap classify)) =
        "" :: "" :: (rest.filterMap classify).map Component.text := by
      rw [pieces_render (by simp), List.flatMap_cons, map_text_filterMap later]
      rfl
    rw [show leadComponents ("" :: rest) = .root :: rest.filterMap classify from rfl,
      components_eq_lead (ne_empty_of_pieces (by simp [written])), written]
    simp [leadComponents, classify,
      filterMap_classify_text fun c member => plain_of_mem_filterMap later member]
  by_cases dot : first = "."
  · subst dot
    have written : pieces (render "/" (.current :: rest.filterMap classify)) =
        "." :: (rest.filterMap classify).map Component.text := by
      rw [pieces_render (by simp), List.flatMap_cons, map_text_filterMap later]
      rfl
    rw [show leadComponents ("." :: rest) = .current :: rest.filterMap classify from rfl,
      components_eq_lead (ne_empty_of_pieces (by simp [written])), written]
    simp [leadComponents, filterMap_classify_text fun c member => plain_of_mem_filterMap later member]
  · have lead : leadComponents (first :: rest) = (first :: rest).filterMap classify := by
      simp [leadComponents, empty, dot]
    obtain ⟨c, found⟩ := classify_isSome empty dot
    have written : pieces (render "/" ((first :: rest).filterMap classify)) =
        first :: (rest.filterMap classify).map Component.text := by
      rw [List.filterMap_cons_some found, pieces_render (by simp), List.flatMap_cons,
        map_text_filterMap later, pieces_plain (plain_of_classify found (pieceless first (by simp))),
        text_of_classify found]
      rfl
    rw [lead, components_eq_lead (ne_empty_of_pieces (by simp [written, empty])), written]
    simp [leadComponents, empty, dot, List.filterMap_cons_some found,
      filterMap_classify_text fun c member => plain_of_mem_filterMap later member]

/-! ## Names below a root -/

theorem stripPrefix_append (base rest : List Component) :
    stripPrefix base (base ++ rest) = some rest := by
  induction base with
  | nil => rfl
  | cons b bs ih => simp [stripPrefix, ih]

theorem eq_append_of_stripPrefix {base whole rest : List Component}
    (stripped : stripPrefix base whole = some rest) : whole = base ++ rest := by
  induction base generalizing whole with
  | nil => simpa [stripPrefix, eq_comm] using stripped
  | cons b bs ih =>
    cases whole with
    | nil => simp [stripPrefix] at stripped
    | cons c cs =>
      simp only [stripPrefix] at stripped
      split at stripped
      · rename_i same
        subst same
        rw [ih stripped, List.cons_append]
      · cases stripped

/-- Joining a root and the name that a path has below it. The components of the join are the
root's followed by the name's, whichever way the root ends. -/
theorem components_join {root : String} {cs : List Component} (nonempty : root ≠ "")
    (plain : ∀ c ∈ cs, c.Plain) (named : cs ≠ []) :
    components (join root (render "/" cs)) = components root ++ cs := by
  have written : pieces (render "/" cs) = cs.map Component.text := by
    rw [pieces_render named, List.map_eq_flatMap]
    exact List.flatMap_congr fun c member => pieces_plain (plain c member)
  have rest : (pieces (render "/" cs)).filterMap classify = cs := by
    rw [written, filterMap_classify_text plain]
  unfold join
  rw [startsWith_render plain named]
  simp only [Bool.false_eq_true, if_false, nonempty, false_or]
  split
  · rename_i slashed
    rw [← String.endsWith_toSlice, String.Slice.endsWith_string_iff, String.copy_toSlice] at slashed
    obtain ⟨base, spelled⟩ := slashed
    have split : root = String.ofList base ++ "/" ++ "" := by
      apply String.ext
      simp [String.toList_append, ← spelled]
    have rootPieces : pieces root = pieces (String.ofList base) ++ pieces "" := by
      rw [split, pieces_append_slash]
    have joined : root ++ render "/" cs = String.ofList base ++ "/" ++ render "/" cs := by
      rw [split, String.append_empty]
    rw [joined, components_eq_lead (by simp), components_eq_lead nonempty, pieces_append_slash,
      rootPieces, pieces_empty, leadComponents_append _ (pieces_ne_nil _),
      leadComponents_append _ (pieces_ne_nil _), rest]
    simp [classify]
  · rw [components_eq_lead (by simp [nonempty]), components_eq_lead nonempty, pieces_append_slash,
      leadComponents_append _ (pieces_ne_nil _), rest]

theorem relativeToRoot_join {root p n : String} (rel : relativeToRoot root p = some n) :
    relativeToRoot root (join root n) = some n := by
  unfold relativeToRoot at rel
  split at rel
  · rename_i c cs stripped
    cases rel
    have whole := eq_append_of_stripPrefix stripped
    by_cases empty : root = ""
    · subst empty
      rw [components_empty, List.nil_append] at whole
      have named : p ≠ "" := by
        rintro rfl
        simp [components_empty] at whole
      have joined : join "" (render "/" (c :: cs)) = render "/" (c :: cs) := by
        unfold join
        split <;> simp
      rw [joined, ← whole, relativeToRoot, components_render_components named, components_empty,
        whole]
      rfl
    · have plain : ∀ x ∈ c :: cs, x.Plain := by
        intro x member
        have later : x ∈ (components p).tail := by
          rw [whole, List.tail_append_of_ne_nil (components_ne_nil empty)]
          exact List.mem_append_right _ member
        exact plain_of_mem_tail later
      rw [relativeToRoot, components_join empty plain (by simp), stripPrefix_append]
  · cases rel

theorem stripPrefix_eq_some_iff {base whole rest : List Component} :
    stripPrefix base whole = some rest ↔ whole = base ++ rest :=
  ⟨eq_append_of_stripPrefix, fun split => split ▸ stripPrefix_append base rest⟩

theorem relativeToRoot_eq_some_iff {root p n : String} :
    relativeToRoot root p = some n ↔
      ∃ rest, rest ≠ [] ∧ components p = components root ++ rest ∧ n = render "/" rest := by
  unfold relativeToRoot
  constructor
  · intro found
    split at found
    · rename_i c cs stripped
      exact ⟨c :: cs, List.cons_ne_nil c cs, eq_append_of_stripPrefix stripped,
        (Option.some.inj found).symm⟩
    · cases found
  · rintro ⟨rest, named, split, rfl⟩
    obtain ⟨c, cs, rfl⟩ := List.exists_cons_of_ne_nil named
    rw [split, stripPrefix_append]

theorem relativeToRoot_self (root : String) : relativeToRoot root root = none := by
  cases found : relativeToRoot root root with
  | none => rfl
  | some n =>
    obtain ⟨rest, named, split, -⟩ := relativeToRoot_eq_some_iff.mp found
    exact absurd (by simpa using split) named

/-- Names below a root go by components, not by characters: a path has one exactly when the
root's components are a proper prefix of its own, the name is the rest joined by slashes, the
root itself has none, and a name joined back to the root names the same path below it. -/
theorem names_below_root (root p n : String) :
    (relativeToRoot root p = some n ↔
      ∃ rest, rest ≠ [] ∧ components p = components root ++ rest ∧ n = render "/" rest) ∧
    relativeToRoot root root = none ∧
    (relativeToRoot root p = some n → relativeToRoot root (join root n) = some n) :=
  ⟨relativeToRoot_eq_some_iff, relativeToRoot_self root, relativeToRoot_join⟩

theorem name_below_work_root :
    relativeToRoot "/work/proj" "/work/proj/app/a.cpp" = some "app/a.cpp" ∧
      relativeToRoot "/work/proj" (join "/work/proj" "app/a.cpp") = some "app/a.cpp" :=
  ⟨by decide, (names_below_root "/work/proj" "/work/proj/app/a.cpp" "app/a.cpp").2.2 (by decide)⟩

/-- A sibling whose name only extends the root's last name is not below it. -/
example : relativeToRoot "/src/app" "/src/app2/x" = none := by decide

end LineCoverage.Path
