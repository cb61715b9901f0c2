import LineCoverage.Proofs.Path.Components
/-! The names of the dump tool's working directories.

An object directory below the build directory is named by its names below it joined by `#`,
and the build directory itself by `.`. Every such name is `.` or a nonempty name without a
slash. Cutting a joined name at `#` gives the names back when none of them holds a `#`, so
object directories whose names hold no `#` get different working directories. A directory
name that holds a `#` can meet the names of a nested directory: `a#b` and `a/b` are both
named `a#b`.
-/

set_option autoImplicit false

namespace LineCoverage.Path

/-! ## Names among the components of a path -/

theorem plain_of_normal_mem {p n : String} (member : Component.normal n ∈ components p) :
    (Component.normal n).Plain := by
  have pieceless : ∀ t ∈ pieces p, '/' ∉ t.toList := fun t listed => not_mem_of_mem_pieces listed
  unfold components at member
  split at member
  · rename_i rest split
    split at member
    · simp at member
    · rw [split] at pieceless
      refine plain_of_mem_filterMap (fun t (listed : t ∈ rest) => pieceless t (by simp [listed])) ?_
      simpa using member
  · rename_i rest split
    rw [split] at pieceless
    refine plain_of_mem_filterMap (fun t (listed : t ∈ rest) => pieceless t (by simp [listed])) ?_
    simpa using member
  · exact plain_of_mem_filterMap pieceless member

theorem name_of_normal_mem {p n : String} (member : Component.normal n ∈ components p) :
    n ≠ "" ∧ n ≠ "." ∧ n ≠ ".." ∧ '/' ∉ n.toList := by
  obtain ⟨classified, slashless⟩ := plain_of_normal_mem member
  simp only [Component.text] at classified slashless
  unfold classify at classified
  split at classified
  · cases classified
  · rename_i named
    simp only [not_or] at named
    split at classified
    · cases classified
    · rename_i notParent
      exact ⟨named.1, named.2, notParent, slashless⟩

/-! ## The name of an object directory below the build directory -/

def NamesBelow (binDir objectDir : String) (names : List String) : Prop :=
  components objectDir = components binDir ++ names.map Component.normal

instance (binDir objectDir : String) (names : List String) :
    Decidable (NamesBelow binDir objectDir names) :=
  inferInstanceAs (Decidable (components objectDir = _))

theorem intermediateDirName_of_namesBelow {binDir objectDir : String} {names : List String}
    (below : NamesBelow binDir objectDir names) :
    intermediateDirName binDir objectDir = if names = [] then "." else "#".intercalate names := by
  unfold intermediateDirName
  rw [below, stripPrefix_append, Option.getD_some]
  by_cases empty : names = []
  · simp [empty]
  · simp [empty, render, List.map_map, Function.comp_def, Component.text]

theorem name_of_mem_namesBelow {binDir objectDir n : String} {names : List String}
    (below : NamesBelow binDir objectDir names) (member : n ∈ names) :
    n ≠ "" ∧ n ≠ "." ∧ n ≠ ".." ∧ '/' ∉ n.toList :=
  name_of_normal_mem (p := objectDir) (by rw [below]; simp [member])

theorem intermediateDirName_shape {binDir objectDir : String} {names : List String}
    (below : NamesBelow binDir objectDir names) :
    (intermediateDirName binDir objectDir = "." ↔ names = []) ∧
      (names ≠ [] → intermediateDirName binDir objectDir ≠ "" ∧
        '/' ∉ (intermediateDirName binDir objectDir).toList) := by
  rw [intermediateDirName_of_namesBelow below]
  obtain _ | ⟨first, rest⟩ := names
  · simp
  rw [if_neg (List.cons_ne_nil first rest)]
  have named := fun n (member : n ∈ first :: rest) => name_of_mem_namesBelow below member
  have slashless : '/' ∉ ("#".intercalate (first :: rest)).toList := by
    rw [String.toList_intercalate]
    refine Text.not_mem_intercalate (by decide) ?_
    simp only [List.mem_map]
    rintro _ ⟨n, member, rfl⟩
    exact (named n member).2.2.2
  -- one name is neither empty nor `.`; two or more are joined by a `#`
  have proper : "#".intercalate (first :: rest) ≠ "." ∧ "#".intercalate (first :: rest) ≠ "" := by
    cases rest with
    | nil =>
      rw [String.intercalate_singleton]
      exact ⟨(named first (by simp)).2.1, (named first (by simp)).1⟩
    | cons u more =>
      have hash : '#' ∈ ("#".intercalate (first :: u :: more)).toList := by
        rw [String.intercalate_cons_cons]
        simp [String.toList_append]
      constructor <;> intro eq <;> rw [eq] at hash <;> revert hash <;> decide
  exact ⟨iff_of_false proper.1 (List.cons_ne_nil first rest), fun _ => ⟨proper.2, slashless⟩⟩

/-! ## Different directories, different names -/

theorem splitAll_intercalate_hash {names : List String} (nonempty : names ≠ [])
    (hashless : ∀ n ∈ names, '#' ∉ n.toList) :
    Text.splitAll '#' ("#".intercalate names).toList = names.map String.toList := by
  rw [String.toList_intercalate, show "#".toList = ['#'] from rfl,
    Text.splitAll_intercalate (by simpa using nonempty), List.flatMap_map, List.map_eq_flatMap]
  exact List.flatMap_congr fun n member => Text.splitAll_of_not_mem (hashless n member)

theorem names_eq_of_intercalate {xs ys : List String} (nx : xs ≠ []) (ny : ys ≠ [])
    (hx : ∀ n ∈ xs, '#' ∉ n.toList) (hy : ∀ n ∈ ys, '#' ∉ n.toList)
    (same : "#".intercalate xs = "#".intercalate ys) : xs = ys := by
  have split := splitAll_intercalate_hash nx hx
  rw [same, splitAll_intercalate_hash ny hy] at split
  exact List.map_injective_iff.mpr (fun a b eq => String.ext eq) split.symm

/-- Object directories below the build directory whose names hold no `#` get the same
working directory only when they are the same directory. -/
theorem intermediateDirName_injective {binDir o₁ o₂ : String} {n₁ n₂ : List String}
    (below₁ : NamesBelow binDir o₁ n₁) (below₂ : NamesBelow binDir o₂ n₂)
    (hashless₁ : ∀ n ∈ n₁, '#' ∉ n.toList) (hashless₂ : ∀ n ∈ n₂, '#' ∉ n.toList)
    (same : intermediateDirName binDir o₁ = intermediateDirName binDir o₂) :
    components o₁ = components o₂ := by
  suffices names : n₁ = n₂ by rw [below₁, below₂, names]
  have dot₁ := (intermediateDirName_shape below₁).1
  have dot₂ := (intermediateDirName_shape below₂).1
  -- the build directory's own name `.` is no other directory's
  by_cases empty₁ : n₁ = []
  · rw [empty₁, dot₂.mp (same ▸ dot₁.mpr empty₁)]
  by_cases empty₂ : n₂ = []
  · rw [empty₂, dot₁.mp (same ▸ dot₂.mpr empty₂)]
  rw [intermediateDirName_of_namesBelow below₁, intermediateDirName_of_namesBelow below₂,
    if_neg empty₁, if_neg empty₂] at same
  exact names_eq_of_intercalate empty₁ empty₂ hashless₁ hashless₂ same

/-- Working directories of object directories below the build directory: the build directory's
is `.`, every other is a nonempty name without a slash, and two object directories whose names
hold no `#` share one only when they are the same directory. -/
theorem work_dir_names_distinct {binDir o₁ o₂ : String} {n₁ n₂ : List String}
    (below₁ : NamesBelow binDir o₁ n₁) (below₂ : NamesBelow binDir o₂ n₂)
    (hashless₁ : ∀ n ∈ n₁, '#' ∉ n.toList) (hashless₂ : ∀ n ∈ n₂, '#' ∉ n.toList) :
    (intermediateDirName binDir o₁ = intermediateDirName binDir o₂ →
        components o₁ = components o₂) ∧
      (intermediateDirName binDir o₁ = "." ↔ n₁ = []) ∧
      (n₁ ≠ [] → intermediateDirName binDir o₁ ≠ "" ∧
        '/' ∉ (intermediateDirName binDir o₁).toList) :=
  ⟨intermediateDirName_injective below₁ below₂ hashless₁ hashless₂, intermediateDirName_shape below₁⟩

theorem work_dirs_of_nested_libs :
    NamesBelow "/build" "/build/libs/core" ["libs", "core"] ∧ NamesBelow "/build" "/build/libs" ["libs"] ∧
      (∀ n ∈ ["libs", "core"], '#' ∉ n.toList) ∧ (∀ n ∈ ["libs"], '#' ∉ n.toList) ∧
      intermediateDirName "/build" "/build/libs/core" ≠ intermediateDirName "/build" "/build/libs" := by
  have below₁ : NamesBelow "/build" "/build/libs/core" ["libs", "core"] := by decide
  have below₂ : NamesBelow "/build" "/build/libs" ["libs"] := by decide
  have hashless₁ : ∀ n ∈ ["libs", "core"], '#' ∉ n.toList := by decide
  have hashless₂ : ∀ n ∈ ["libs"], '#' ∉ n.toList := by decide
  refine ⟨below₁, below₂, hashless₁, hashless₂, fun same => ?_⟩
  have differ : components "/build/libs/core" ≠ components "/build/libs" := by decide
  exact differ ((work_dir_names_distinct below₁ below₂ hashless₁ hashless₂).1 same)

/-- A directory name holding a `#` meets the names of a nested directory: `a#b` and `a/b` get
the same working directory. -/
theorem hash_name_meets_nested_dir :
    intermediateDirName "/build" "/build/a#b" = intermediateDirName "/build" "/build/a/b" ∧
      components "/build/a#b" ≠ components "/build/a/b" := by
  decide

end LineCoverage.Path
