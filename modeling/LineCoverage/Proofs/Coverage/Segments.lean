import LineCoverage.Coverage.RelevantDirs
import LineCoverage.Proofs.Path.Components
/-! The directory filter goes by whole segments.

`underDir` compares characters: the name must be the directory, a slash, and something more.
That is a statement about the slash-separated segments. The directory's segments are a proper
prefix of the name's, and the name is not just the directory with a slash after it. A name
that only extends the directory's last segment is never kept, and neither is the directory
itself. A list of directories keeps a name when one of its non-empty entries does, so two
lists joined by a colon keep what either of them keeps.
-/

set_option autoImplicit false

namespace LineCoverage.Text

theorem splitAll_eq_splitOn (sep : Char) (cs : List Char) : splitAll sep cs = cs.splitOn sep := by
  induction cs with
  | nil => rfl
  | cons c rest ih =>
    obtain ⟨p, more, split⟩ := List.exists_cons_of_ne_nil (splitAll_ne_nil sep rest)
    rw [List.splitOn_cons_eq_if_modifyHead, ← ih, splitAll, split]
    by_cases same : c = sep <;> simp [same]

theorem not_mem_of_mem_splitOn {sep : Char} {cs t : List Char} (member : t ∈ cs.splitOn sep) :
    sep ∉ t :=
  not_mem_of_mem_splitAll (splitAll_eq_splitOn sep cs ▸ member)

end LineCoverage.Text

namespace LineCoverage

/-! ## One directory -/

theorem underDir_iff {dir name : String} :
    underDir dir name = true ↔ ∃ rest, rest ≠ [] ∧ name.toList = dir.toList ++ '/' :: rest := by
  unfold underDir
  constructor
  · intro kept
    split at kept
    · rename_i c more stripped
      exact ⟨c :: more, List.cons_ne_nil c more,
        (List.append_eq_of_isPrefixOf?_eq_some stripped).symm⟩
    · cases kept
  · rintro ⟨rest, nonempty, spelled⟩
    obtain ⟨c, more, rfl⟩ := List.exists_cons_of_ne_nil nonempty
    rw [List.isPrefixOf?_eq_some_iff_append_eq.mpr spelled.symm]
    rfl

theorem continues_iff_segments {dir name : List Char} :
    (∃ rest, rest ≠ [] ∧ name = dir ++ '/' :: rest) ↔
      dir.splitOn '/' <+: name.splitOn '/' ∧ dir.splitOn '/' ≠ name.splitOn '/' ∧
        name ≠ dir ++ ['/'] := by
  constructor
  · rintro ⟨rest, nonempty, rfl⟩
    have split : (dir ++ '/' :: rest).splitOn '/' = dir.splitOn '/' ++ rest.splitOn '/' :=
      List.splitOn_append_cons_self dir rest
    refine ⟨⟨_, split.symm⟩, ?_, ?_⟩
    · rw [split]
      simp
    · simpa using nonempty
  · rintro ⟨⟨more, split⟩, proper, notSlash⟩
    have longer : more ≠ [] := by
      rintro rfl
      exact proper (by simpa using split)
    -- The rest is the remaining segments joined again; it reads back as those segments
    -- because none of them holds a slash.
    have slashless : ∀ t ∈ more, '/' ∉ t := fun t listed =>
      Text.not_mem_of_mem_splitOn (split ▸ List.mem_append_right _ listed)
    have restSplit : (['/'].intercalate more).splitOn '/' = more :=
      List.splitOn_intercalate '/' slashless longer
    have joined : name = dir ++ '/' :: ['/'].intercalate more := by
      have whole : ['/'].intercalate (name.splitOn '/') = name := List.intercalate_splitOn '/'
      have rejoined : ['/'].intercalate ((dir ++ '/' :: ['/'].intercalate more).splitOn '/') =
          dir ++ '/' :: ['/'].intercalate more := List.intercalate_splitOn '/'
      rw [← whole, ← rejoined, List.splitOn_append_cons_self, restSplit, split]
    refine ⟨_, ?_, joined⟩
    rintro empty
    exact notSlash (by rw [joined, empty])

/-- A name that extends a directory is kept exactly when the extension is a slash followed by
more: a sibling sharing only part of the last segment, the directory with a trailing slash,
and the directory itself are not kept. -/
theorem underDir_append (dir : String) (c : Char) (t : String) :
    underDir dir (dir ++ String.singleton c ++ t) = (c == '/' && t != "") := by
  apply Bool.eq_iff_iff.mpr
  simp only [underDir_iff, String.toList_append, String.toList_singleton, List.singleton_append,
    List.append_assoc, List.append_cancel_left_eq, List.cons.injEq, Bool.and_eq_true, beq_iff_eq,
    bne_iff_ne, ne_eq]
  constructor
  · rintro ⟨rest, nonempty, rfl, rfl⟩
    exact ⟨rfl, by simpa [String.toList_eq_nil_iff] using nonempty⟩
  · rintro ⟨rfl, nonempty⟩
    exact ⟨t.toList, by simpa [String.toList_eq_nil_iff] using nonempty, rfl, rfl⟩

theorem underDir_self (dir : String) : underDir dir dir = false := by
  apply Bool.eq_false_iff.mpr
  rintro kept
  obtain ⟨rest, -, spelled⟩ := underDir_iff.mp kept
  have := congrArg List.length spelled
  simp at this

/-! ## A list of directories -/

theorem RelevantDirs.parse_dirs (list : String) :
    (RelevantDirs.parse list).dirs =
      ((list.toList.splitOn ':').map fun e => canonicalDir (String.ofList e)).filter (· ≠ "") := by
  simp [RelevantDirs.parse, RelevantDirs.ofList, Text.splitAll_eq_splitOn, List.map_map,
    Function.comp_def]

theorem RelevantDirs.matches_parse_iff (list name : String) :
    (RelevantDirs.parse list).matches name = true ↔
      ∃ e ∈ list.toList.splitOn ':',
        canonicalDir (String.ofList e) ≠ "" ∧ underDir (canonicalDir (String.ofList e)) name := by
  simp only [RelevantDirs.matches, RelevantDirs.parse_dirs, List.any_eq_true, List.mem_filter,
    List.mem_map, decide_eq_true_eq]
  constructor
  · rintro ⟨_, ⟨⟨e, listed, rfl⟩, nonempty⟩, kept⟩
    exact ⟨e, listed, nonempty, kept⟩
  · rintro ⟨e, listed, nonempty, kept⟩
    exact ⟨_, ⟨⟨e, listed, rfl⟩, nonempty⟩, kept⟩

theorem RelevantDirs.parse_join (first second : String) :
    (RelevantDirs.parse (first ++ ":" ++ second)).dirs =
      (RelevantDirs.parse first).dirs ++ (RelevantDirs.parse second).dirs := by
  have split : (first ++ ":" ++ second).toList.splitOn ':' =
      first.toList.splitOn ':' ++ second.toList.splitOn ':' := by
    have joined : (first.toList ++ ':' :: second.toList).splitOn ':' =
        first.toList.splitOn ':' ++ second.toList.splitOn ':' :=
      List.splitOn_append_cons_self first.toList second.toList
    simpa [String.toList_append] using joined
  simp only [RelevantDirs.parse_dirs, split, List.map_append, List.filter_append]

/-- The directory filter goes by whole segments. A list keeps a name exactly when one of its
colon-separated entries, made canonical, is not empty, its segments are a proper prefix of the
name's, and the name is not that entry with a bare slash. Lists joined by a colon keep what
either keeps. One directory keeps a name that extends it only through a slash and something
after it, and it does not keep itself. -/
theorem RelevantDirs.matches_whole_segments (list other name dir : String) (c : Char) (t : String) :
    ((RelevantDirs.parse list).matches name = true ↔
      ∃ e ∈ list.toList.splitOn ':',
        canonicalDir (String.ofList e) ≠ "" ∧
        (canonicalDir (String.ofList e)).toList.splitOn '/' <+: name.toList.splitOn '/' ∧
        (canonicalDir (String.ofList e)).toList.splitOn '/' ≠ name.toList.splitOn '/' ∧
        name ≠ canonicalDir (String.ofList e) ++ "/") ∧
    (RelevantDirs.parse (list ++ ":" ++ other)).matches name =
      ((RelevantDirs.parse list).matches name || (RelevantDirs.parse other).matches name) ∧
    underDir dir (dir ++ String.singleton c ++ t) = (c == '/' && t != "") ∧
    underDir dir dir = false := by
  refine ⟨?_, ?_, underDir_append dir c t, underDir_self dir⟩
  · rw [RelevantDirs.matches_parse_iff]
    refine exists_congr fun e => and_congr_right fun _ => and_congr_right fun _ => ?_
    have bare : ∀ d : String, name ≠ d ++ "/" ↔ name.toList ≠ d.toList ++ ['/'] := fun d => by
      simp [← String.toList_inj, String.toList_append]
    rw [underDir_iff, bare, ← continues_iff_segments]
  · simp [RelevantDirs.matches, RelevantDirs.parse_join]

end LineCoverage
