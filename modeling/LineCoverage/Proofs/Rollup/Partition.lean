import LineCoverage.Proofs.Rollup.Layout
/-! Directories partition a rollup's files.

Every file of a rollup lies in exactly one directory, the directory part of its name, and a
directory lists exactly its files, so the directories' stats add up to the files' stats and
both to the total. The two sums fold the same stats in different groupings and orders; they
agree because a sum of stats forgets grouping and order (`Stats.sum_map_sum`,
`Stats.sum_perm`).

A name that only the previous snapshot has contributes empty current stats, so when the
current snapshot names no file twice its total is the sum of its own files' stats.
-/

set_option autoImplicit false

namespace LineCoverage

/-- Grouping a list without repeats by a key, over a list without repeats that holds every
key, only reorders it. -/
theorem flatMap_filter_perm {α β : Type} [DecidableEq β] {xs : List α} {groups : List β}
    (key : α → β) (nodup : xs.Nodup) (distinct : groups.Nodup)
    (covered : ∀ x ∈ xs, key x ∈ groups) :
    (groups.flatMap fun g => xs.filter (key · = g)).Perm xs := by
  have disjoint : groups.Pairwise
      (Function.onFun List.Disjoint fun g => xs.filter (key · = g)) := by
    refine distinct.imp fun {g g'} apart => ?_
    intro x inG inG'
    simp only [List.mem_filter, decide_eq_true_eq] at inG inG'
    exact apart (inG.2.symm.trans inG'.2)
  rw [List.perm_ext_iff_of_nodup (List.nodup_flatMap.mpr ⟨fun g _ => nodup.filter _, disjoint⟩)
    nodup]
  intro x
  simp only [List.mem_flatMap, List.mem_filter, decide_eq_true_eq]
  constructor
  · rintro ⟨g, -, member, -⟩
    exact member
  · intro member
    exact ⟨key x, covered x member, member, rfl⟩

theorem Rollup.build_total_files (c : Snapshot) (p : Option Snapshot) :
    (Rollup.build c p).total = Stats.sum ((Rollup.build c p).files.toList.map (·.2.stats)) := by
  rw [Rollup.build_total, Rollup.build_files_toList, List.map_map]
  rfl

theorem Rollup.build_total_dirs (c : Snapshot) (p : Option Snapshot) :
    (Rollup.build c p).total = Stats.sum ((Rollup.build c p).dirs.toList.map (·.2.stats)) := by
  let r := Rollup.build c p
  let members : String → List String := fun d => r.files.keys.filter (parentDir · = d)
  have covered : ∀ n ∈ r.files.keys, parentDir n ∈ r.dirs.keys := by
    intro n member
    rw [Std.TreeMap.mem_keys, Rollup.mem_build_dirs]
    exact ⟨n, member, rfl⟩
  -- each directory's stats are the sum over its members, and the members of all directories
  -- are the files in another order
  have regrouped : (r.dirs.keys.flatMap members).Perm r.files.keys :=
    flatMap_filter_perm parentDir Std.TreeMap.nodup_keys Std.TreeMap.nodup_keys covered
  calc r.total = Stats.sum (r.files.keys.map (statsNamed c.sourceFiles)) := Rollup.build_total c p
    _ = Stats.sum ((r.dirs.keys.flatMap members).map (statsNamed c.sourceFiles)) :=
        Stats.sum_perm (regrouped.map _).symm
    _ = Stats.sum (r.dirs.keys.map fun d => Stats.sum ((members d).map (statsNamed c.sourceFiles))) := by
        rw [List.flatMap, List.map_flatten, ← Stats.sum_map_sum, List.map_map, List.map_map]
        rfl
    _ = Stats.sum (r.dirs.toList.map (·.2.stats)) := by
        rw [Rollup.build_dirs_toList, List.map_map]
        rfl

/-- Names that only the previous snapshot has add nothing, so with distinct names the total
is the sum of the current files' stats. -/
theorem Rollup.build_total_of_distinct (c : Snapshot) (p : Option Snapshot)
    (distinct : (c.sourceFiles.map (·.name)).Nodup) :
    (Rollup.build c p).total = Stats.sum (c.sourceFiles.map (Stats.ofCoverage ·.coverage)) := by
  let names := c.sourceFiles.map (·.name)
  let keys := (Rollup.build c p).files.keys
  have current : (keys.filter (· ∈ names)).Perm names := by
    apply (List.perm_ext_iff_of_nodup (Std.TreeMap.nodup_keys.filter _) distinct).mpr
    intro n
    simp only [List.mem_filter, decide_eq_true_eq, and_iff_right_iff_imp, Std.TreeMap.mem_keys,
      Rollup.mem_build_files, names, List.mem_map]
    exact .inl
  have dropped : ∀ n ∈ keys, decide (n ∈ names) = false → statsNamed c.sourceFiles n = {} := by
    intro n _ absent
    apply statsNamed_of_none
    intro f member named
    simp only [decide_eq_false_iff_not, names, List.mem_map] at absent
    exact absent ⟨f, member, named⟩
  have own : ∀ f ∈ c.sourceFiles, statsNamed c.sourceFiles f.name = Stats.ofCoverage f.coverage := by
    intro f member
    simp [statsNamed, lastNamed_of_nodup distinct member]
  calc (Rollup.build c p).total = Stats.sum (keys.map (statsNamed c.sourceFiles)) :=
        Rollup.build_total c p
    _ = Stats.sum ((keys.filter (· ∈ names)).map (statsNamed c.sourceFiles)) :=
        (Stats.sum_map_filter keys _ _ dropped).symm
    _ = Stats.sum (names.map (statsNamed c.sourceFiles)) := Stats.sum_perm (current.map _)
    _ = Stats.sum (c.sourceFiles.map (Stats.ofCoverage ·.coverage)) := by
        rw [List.map_map]
        exact congrArg Stats.sum (List.map_congr_left own)

/-- The directories of a rollup partition its files. Its files are the names of both
snapshots; its directories are the directory parts of its files, each named so, listing in
name order exactly the files it is the directory part of, all of which it can look up, and
holding the sum of their stats; and the total is the sum of the files' stats and of the
directories' stats. When the current snapshot names no file twice, the total is also the sum
of the current files' stats. -/
theorem Rollup.dirs_partition_files (c : Snapshot) (p : Option Snapshot) :
    let r := Rollup.build c p
    (∀ n, n ∈ r.files ↔
      (∃ f ∈ c.sourceFiles, f.name = n) ∨ ∃ q ∈ p, ∃ f ∈ q.sourceFiles, f.name = n) ∧
    (∀ d, d ∈ r.dirs ↔ ∃ n ∈ r.files, parentDir n = d) ∧
    (∀ (d : String) (dr : DirectoryReport), r.dirs[d]? = some dr →
      dr.name = d ∧ dr.files = r.files.keys.filter (parentDir · = d) ∧
      (r.filesIn dr).map FileReport.name = dr.files ∧
      dr.stats = Stats.sum ((r.filesIn dr).map FileReport.stats)) ∧
    r.total = Stats.sum (r.files.toList.map (·.2.stats)) ∧
    r.total = Stats.sum (r.dirs.toList.map (·.2.stats)) ∧
    ((c.sourceFiles.map (·.name)).Nodup →
      r.total = Stats.sum (c.sourceFiles.map (Stats.ofCoverage ·.coverage))) := by
  intro r
  refine ⟨?files, ?dirs, ?members, Rollup.build_total_files c p, Rollup.build_total_dirs c p,
    Rollup.build_total_of_distinct c p⟩
  case files =>
    intro n
    rw [Rollup.mem_build_files]
    cases p <;> simp [previousFiles]
  case dirs =>
    intro d
    simp [r, Rollup.mem_build_dirs]
  case members =>
    intro d dr found
    rw [Rollup.filesIn_of_found found, Rollup.eq_dirOf found]
    refine ⟨rfl, rfl, ?_, ?_⟩
    · rw [List.map_map]
      exact List.map_id _
    · rw [List.map_map]
      rfl

/-- Two files in two directories: their total is the sum of their own stats. -/
theorem Rollup.total_of_two_distinct_files :
    let c : Snapshot := { sourceFiles := [⟨"lib/a.c", "d", [some 1, none]⟩, ⟨"main.c", "e", [some 0]⟩] }
    (c.sourceFiles.map (·.name)).Nodup ∧
      (Rollup.build c none).total = Stats.sum (c.sourceFiles.map (Stats.ofCoverage ·.coverage)) := by
  intro c
  have distinct : (c.sourceFiles.map (·.name)).Nodup := by decide
  exact ⟨distinct, (Rollup.dirs_partition_files c none).2.2.2.2.2 distinct⟩

end LineCoverage
