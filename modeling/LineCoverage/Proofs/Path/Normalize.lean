import LineCoverage.Proofs.Path.WorkDirs
/-! Resolving `.` and `..` in a path.

`normalize` walks a path's components and keeps whether it saw the root and the names so far.
That is a stack of components seen another way: `.` is passed over, `..` pops the last name
and never the root, and anything else is pushed. The two agree because the root can only come
first. The path written from such a stack has exactly the stack as its components, since each
name on it came from a path, holds no slash and is neither `.` nor `..`. Hence the result has
no `.` or `..`, starts with a slash exactly when the path does, and a second pass changes
nothing.
-/

set_option autoImplicit false

namespace LineCoverage.Path

/-! ## Resolving with a stack -/

/-- One step of resolving a path with a stack of components: `.` is passed over, `..` pops
the last component when it is a name, and any other component is pushed. -/
def resolveStep (stack : List Component) : Component → List Component
  | .current => stack
  | .parent =>
    match stack.getLast? with
    | some (.normal _) => stack.dropLast
    | _ => stack
  | c => stack ++ [c]

def resolve (cs : List Component) : List Component := cs.foldl resolveStep []

/-- What `walk` keeps, read as a stack: the root if it was seen, then the names. -/
def stackOf (acc : Bool × List String) : List Component :=
  (if acc.1 then [.root] else []) ++ acc.2.map .normal

theorem resolveStep_stackOf {acc : Bool × List String} {c : Component} (notRoot : c ≠ .root) :
    resolveStep (stackOf acc) c = stackOf (walk acc c) := by
  obtain ⟨absolute, names⟩ := acc
  cases c with
  | root => exact absurd rfl notRoot
  | current => rfl
  | parent =>
    -- `..` finds a name to pop exactly when some name was kept
    rcases List.eq_nil_or_concat names with rfl | ⟨init, last, rfl⟩
    · cases absolute <;> rfl
    · simp [resolveStep, stackOf, walk]
  | normal n => cases absolute <;> simp [resolveStep, stackOf, walk]

theorem resolveStep_nil (c : Component) : resolveStep [] c = stackOf (walk (false, []) c) := by
  cases c <;> rfl

theorem foldl_resolveStep_stackOf {cs : List Component} (rootless : Component.root ∉ cs)
    (acc : Bool × List String) :
    cs.foldl resolveStep (stackOf acc) = stackOf (cs.foldl walk acc) := by
  induction cs generalizing acc with
  | nil => rfl
  | cons c rest ih =>
    simp only [List.mem_cons, not_or] at rootless
    rw [List.foldl_cons, List.foldl_cons, resolveStep_stackOf (Ne.symm rootless.1), ih rootless.2]

theorem foldl_resolveStep_names (names : List String) (stack : List Component) :
    (names.map Component.normal).foldl resolveStep stack = stack ++ names.map Component.normal := by
  induction names generalizing stack with
  | nil => simp
  | cons n rest ih => simp [resolveStep, ih]

theorem mem_stackOf {acc : Bool × List String} {c : Component} (member : c ∈ stackOf acc) :
    c = .root ∨ ∃ n ∈ acc.2, c = .normal n := by
  simp only [stackOf, List.mem_append, List.mem_map] at member
  rcases member with root | ⟨n, listed, rfl⟩
  · left
    split at root <;> simp_all
  · exact .inr ⟨n, listed, rfl⟩

theorem resolve_stackOf (acc : Bool × List String) : resolve (stackOf acc) = stackOf acc := by
  obtain ⟨absolute, names⟩ := acc
  cases absolute with
  | false => simp [resolve, stackOf, foldl_resolveStep_names]
  | true => simp [resolve, stackOf, resolveStep, foldl_resolveStep_names]

/-! ## The root comes first -/

theorem root_not_plain : ¬ Component.root.Plain := fun plain => plain.2 (by decide)

theorem root_not_mem_tail (p : String) : Component.root ∉ (components p).tail :=
  fun member => root_not_plain (plain_of_mem_tail member)

theorem resolve_components (p : String) :
    resolve (components p) = stackOf ((components p).foldl walk (false, [])) := by
  have rootless := root_not_mem_tail p
  cases split : components p with
  | nil => rfl
  | cons c rest =>
    rw [split, List.tail_cons] at rootless
    rw [resolve, List.foldl_cons, List.foldl_cons, resolveStep_nil,
      foldl_resolveStep_stackOf rootless]

theorem foldl_walk_fst (cs : List Component) (acc : Bool × List String) :
    (cs.foldl walk acc).1 = (acc.1 || decide (Component.root ∈ cs)) := by
  induction cs generalizing acc with
  | nil => simp
  | cons c rest ih =>
    rw [List.foldl_cons, ih]
    cases c <;> simp [walk]

/-! ## Names kept by the walk -/

def NamesPlain (acc : Bool × List String) : Prop := ∀ n ∈ acc.2, (Component.normal n).Plain

theorem NamesPlain.step {acc : Bool × List String} {c : Component} (kept : NamesPlain acc)
    (named : ∀ n, c = .normal n → (Component.normal n).Plain) : NamesPlain (walk acc c) := by
  cases c with
  | root => simp [NamesPlain, walk]
  | current => exact kept
  | parent => exact fun n member => kept n (List.dropLast_subset _ member)
  | normal m =>
    intro n member
    simp only [walk, List.mem_append, List.mem_singleton] at member
    rcases member with member | rfl
    · exact kept n member
    · exact named n rfl

theorem namesPlain_foldl_walk (p : String) : NamesPlain ((components p).foldl walk (false, [])) := by
  -- every name pushed is a name among the path's components
  suffices ∀ (cs : List Component) (acc : Bool × List String), (∀ c ∈ cs, c ∈ components p) →
      NamesPlain acc → NamesPlain (cs.foldl walk acc) from
    this _ _ (fun c member => member) (fun n member => by simp at member)
  intro cs
  induction cs with
  | nil => exact fun acc _ kept => kept
  | cons c rest ih =>
    intro acc listed kept
    rw [List.foldl_cons]
    refine ih _ (fun d member => listed d (List.mem_cons_of_mem c member)) (kept.step ?_)
    rintro n rfl
    exact plain_of_normal_mem (listed _ List.mem_cons_self)

/-! ## Writing a stack back -/

theorem components_slash_append (rest : String) :
    components ("/" ++ rest) = .root :: (pieces rest).filterMap classify := by
  have split : "/" ++ rest = "" ++ "/" ++ rest := by simp
  rw [split, components_eq_lead (by simp [← String.toList_inj, String.toList_append]),
    pieces_append_slash, pieces_empty]
  rfl

theorem leadComponents_cons {first : String} (rest : List String) (named : first ≠ "")
    (notDot : first ≠ ".") : leadComponents (first :: rest) = (first :: rest).filterMap classify := by
  simp [leadComponents, named, notDot]

theorem filterMap_pieces_render {cs : List Component} (plain : ∀ c ∈ cs, c.Plain) :
    (pieces (render "/" cs)).filterMap classify = cs := by
  cases cs with
  | nil => rfl
  | cons c rest =>
    have written : pieces (render "/" (c :: rest)) = (c :: rest).map Component.text := by
      rw [pieces_render (List.cons_ne_nil c rest), List.map_eq_flatMap]
      exact List.flatMap_congr fun d member => pieces_plain (plain d member)
    rw [written, filterMap_classify_text plain]

theorem components_render {cs : List Component} (plain : ∀ c ∈ cs, c.Plain) :
    components (render "/" cs) = cs := by
  cases cs with
  | nil => rfl
  | cons c rest =>
    -- the first piece is `c`'s text, which is neither empty nor `.`, so nothing is special
    have first := (plain c List.mem_cons_self).1
    have named : c.text ≠ "" ∧ c.text ≠ "." := by
      constructor <;> intro same <;> rw [same] at first <;> simp [classify] at first
    have written : pieces (render "/" (c :: rest)) = c.text :: (rest.map Component.text) := by
      rw [pieces_render (List.cons_ne_nil c rest), List.flatMap_cons,
        pieces_plain (plain c List.mem_cons_self), List.map_eq_flatMap]
      exact congrArg _ (List.flatMap_congr fun d member =>
        pieces_plain (plain d (List.mem_cons_of_mem c member)))
    have nonempty : render "/" (c :: rest) ≠ "" := by
      intro empty
      rw [empty, pieces_empty] at written
      exact named.1 (List.cons_eq_cons.mp written).1.symm
    rw [components_eq_lead nonempty, written, leadComponents_cons _ named.1 named.2, ← List.map_cons,
      filterMap_classify_text plain]

theorem plain_stackOf_names {acc : Bool × List String} (kept : NamesPlain acc) :
    ∀ c ∈ acc.2.map Component.normal, c.Plain := by
  simpa [NamesPlain] using kept

theorem ofComponents_stackOf (acc : Bool × List String) :
    ofComponents (stackOf acc) = (if acc.1 then "/" else "") ++ render "/" (acc.2.map .normal) := by
  obtain ⟨absolute, names⟩ := acc
  cases absolute with
  | true => rfl
  | false =>
    -- without the root the first component is a name, and `ofComponents` only joins
    cases names with
    | nil => rfl
    | cons n rest => simp [stackOf, ofComponents, render]

theorem components_ofComponents_stackOf {acc : Bool × List String} (kept : NamesPlain acc) :
    components (ofComponents (stackOf acc)) = stackOf acc := by
  obtain ⟨absolute, names⟩ := acc
  have plain : ∀ c ∈ names.map Component.normal, c.Plain := plain_stackOf_names kept
  rw [ofComponents_stackOf]
  cases absolute with
  | true =>
    rw [if_pos rfl, components_slash_append, filterMap_pieces_render plain]
    rfl
  | false =>
    simp only [Bool.false_eq_true, if_false, String.empty_append]
    exact components_render plain

theorem startsWith_ofComponents_stackOf {acc : Bool × List String} (kept : NamesPlain acc) :
    (ofComponents (stackOf acc)).startsWith "/" = acc.1 := by
  obtain ⟨absolute, names⟩ := acc
  rw [ofComponents_stackOf]
  cases absolute with
  | true => exact String.startsWith_string_iff.mpr (by simp [String.toList_append])
  | false =>
    simp only [Bool.false_eq_true, if_false, String.empty_append]
    cases names with
    | nil => exact String.startsWith_string_eq_false_iff.mpr (by simp [render])
    | cons n rest => exact startsWith_render (plain_stackOf_names kept) (List.cons_ne_nil _ _)

/-! ## Absolute paths -/

theorem classify_ne_root (piece : String) : classify piece ≠ some .root := by
  unfold classify
  split
  · simp
  · split <;> simp

theorem root_not_mem_filterMap (ps : List String) : Component.root ∉ ps.filterMap classify := by
  simpa [List.mem_filterMap] using fun piece _ => classify_ne_root piece

theorem startsWith_slash_iff (p : String) : p.startsWith "/" = true ↔ Component.root ∈ components p := by
  rw [String.startsWith_string_iff]
  cases spelled : p.toList with
  | nil =>
    rw [String.toList_eq_nil_iff.mp spelled, components_empty]
    simp
  | cons c rest =>
    by_cases slash : c = '/'
    · subst slash
      have split : p = "/" ++ String.ofList rest := by
        simp [← String.toList_inj, String.toList_append, spelled]
      simp [split, components_slash_append]
    · -- the first piece starts with `c`, so it is not the empty piece that makes the root
      have notPrefix : ¬ "/".toList <+: c :: rest := by simp [Ne.symm slash]
      simp only [notPrefix, false_iff]
      obtain ⟨q, more, split⟩ := List.exists_cons_of_ne_nil (Text.splitAll_ne_nil '/' rest)
      have first : pieces p = String.ofList (c :: q) :: more.map String.ofList := by
        simp [pieces, spelled, Text.splitAll, split, slash]
      have nonempty : p ≠ "" := by simp [← String.toList_inj, spelled]
      rw [components_eq_lead nonempty, first]
      by_cases dot : String.ofList (c :: q) = "."
      · rw [dot, show leadComponents ("." :: more.map String.ofList) =
          .current :: (more.map String.ofList).filterMap classify from rfl]
        simp only [List.mem_cons, reduceCtorEq, false_or]
        exact root_not_mem_filterMap _
      · have named : String.ofList (c :: q) ≠ "" := by simp [← String.toList_inj]
        rw [leadComponents_cons _ named dot]
        exact root_not_mem_filterMap _

/-! ## Normalizing -/

theorem render_names (names : List String) : render "/" (names.map .normal) = "/".intercalate names := by
  simp [render, List.map_map, Function.comp_def, Component.text]

theorem normalize_eq_ofComponents (p : String) :
    normalize p = ofComponents (stackOf ((components p).foldl walk (false, []))) := by
  unfold normalize
  generalize (components p).foldl walk (false, []) = acc
  obtain ⟨absolute, names⟩ := acc
  rw [ofComponents_stackOf, render_names]
  cases absolute <;> simp

/-- `normalize` resolves a path's components with a stack: `.` is passed over, `..` pops the
last name but never the root, and every other component is pushed. The result is the stack
written back, and has the stack as its components, so it holds no `.` and no `..`. It starts
with a slash exactly when the path does, and normalizing it again changes nothing. -/
theorem normalize_resolves_dots (p : String) :
    normalize p = ofComponents (resolve (components p)) ∧
    components (normalize p) = resolve (components p) ∧
    (∀ c ∈ components (normalize p), c ≠ .current ∧ c ≠ .parent) ∧
    (normalize p).startsWith "/" = p.startsWith "/" ∧
    normalize (normalize p) = normalize p := by
  have kept := namesPlain_foldl_walk p
  have written := normalize_eq_ofComponents p
  have stacked : components (normalize p) = resolve (components p) := by
    rw [written, components_ofComponents_stackOf kept, resolve_components]
  refine ⟨by rw [written, resolve_components], stacked, ?_, ?_, ?_⟩
  · intro c member
    rw [stacked, resolve_components] at member
    rcases mem_stackOf member with rfl | ⟨n, -, rfl⟩ <;> simp
  · rw [written, startsWith_ofComponents_stackOf kept, foldl_walk_fst, Bool.false_or]
    by_cases rooted : Component.root ∈ components p
    · simp [rooted, (startsWith_slash_iff p).mpr rooted]
    · simp [rooted, Bool.eq_false_iff.mpr (mt (startsWith_slash_iff p).mp rooted)]
  · rw [normalize_eq_ofComponents (normalize p), ← resolve_components, stacked,
      resolve_components, resolve_stackOf, ← written]

example : normalize "/proj/build/../src/./lib" = "/proj/src/lib" ∧ normalize "/../x" = "/x" ∧
    normalize "/proj/" = "/proj" := by decide

end LineCoverage.Path
