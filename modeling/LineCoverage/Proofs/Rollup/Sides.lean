import LineCoverage.Proofs.Rollup.Layout
import LineCoverage.Proofs.Stats.Deltas
/-! The current and previous sides of a rollup.

With a previous snapshot every file, every directory and the total carry previous stats: a
file those of its last previous entry, or empty ones when it is new, a directory and the total
the sums over their files. Without one, nothing carries any. A file's current side is its last
current entry; a file that only the previous snapshot has is deleted, with no digest, empty
stats and no coverage.

The two sides are built alike from the two snapshots, so exchanging the snapshots exchanges
the sides of every file, directory and the total, and every delta mirrors; a snapshot
compared with itself has moved nowhere.
-/

set_option autoImplicit false

namespace LineCoverage

theorem statsNamed_eq (fs : List SourceFile) (n : String) :
    statsNamed fs n = match lastNamed fs n with
      | some e => Stats.ofCoverage e.coverage
      | none => {} := by
  unfold statsNamed
  cases lastNamed fs n <;> rfl

theorem Rollup.current_of_found {c : Snapshot} {n : String} {f : FileReport}
    (found : (Rollup.build c none).files[n]? = some f) : ∃ e, lastNamed c.sourceFiles n = some e := by
  have filed : n ∈ (Rollup.build c none).files :=
    Std.TreeMap.mem_iff_isSome_getElem?.mpr (by simp [found])
  rw [Rollup.mem_build_files] at filed
  simp only [previousFiles, Option.map_none, Option.getD_none, List.not_mem_nil, false_and,
    exists_false, or_false] at filed
  obtain ⟨e, member, named⟩ := filed
  cases last : lastNamed c.sourceFiles n with
  | none => exact absurd named (lastNamed_eq_none.mp last e member)
  | some e' => exact ⟨e', rfl⟩

/-- With a previous snapshot every file, every directory and the total carry previous stats:
a file those of its last entry in the previous snapshot, or empty stats when it has none
there, a directory the sum over its files, and the total the sum over all files. Without one,
none carries any and every file has a digest. Either way a file's digest and stats come from
its last current entry, and a file without one is deleted: no digest, empty stats, no
coverage. -/
theorem Rollup.build_sides (c : Snapshot) (p : Option Snapshot) :
    let r := Rollup.build c p
    (p = none →
      r.previous = none ∧
      (∀ (d : String) (dr : DirectoryReport), r.dirs[d]? = some dr → dr.previous = none) ∧
      ∀ (n : String) (f : FileReport), r.files[n]? = some f → f.previous = none ∧ f.digest.isSome) ∧
    (∀ q, p = some q →
      (∀ (n : String) (f : FileReport), r.files[n]? = some f →
        f.previous = some (match lastNamed q.sourceFiles n with
          | some e => Stats.ofCoverage e.coverage
          | none => {})) ∧
      (∀ (d : String) (dr : DirectoryReport), r.dirs[d]? = some dr →
        dr.previous = some (Stats.sum ((r.filesIn dr).filterMap FileReport.previous))) ∧
      r.previous = some (Stats.sum (r.files.toList.filterMap (·.2.previous)))) ∧
    ∀ (n : String) (f : FileReport), r.files[n]? = some f →
      match lastNamed c.sourceFiles n with
      | some e => f.digest = some e.digest ∧ f.stats = Stats.ofCoverage e.coverage
      | none => f.digest = none ∧ f.stats = {} ∧ f.coverage = [] := by
  intro r
  refine ⟨?undiffed, ?diffed, ?current⟩
  case undiffed =>
    rintro rfl
    refine ⟨by simp [r, Rollup.build_previous], ?_, ?_⟩
    · intro d dr found
      rw [Rollup.eq_dirOf found]
      rfl
    · intro n f found
      obtain ⟨e, last⟩ := Rollup.current_of_found found
      rw [Rollup.eq_reportOf found]
      exact ⟨rfl, by simp [Rollup.reportOf, last]⟩
  case diffed =>
    rintro q rfl
    refine ⟨?_, ?_, ?_⟩
    · intro n f found
      rw [Rollup.eq_reportOf found, ← statsNamed_eq]
      rfl
    · intro d dr found
      rw [Rollup.filesIn_of_found found, filterMap_previous_reportOf, Rollup.eq_dirOf found]
      rfl
    · have reports : r.files.toList.filterMap (·.2.previous) =
          (r.files.toList.map (·.2)).filterMap FileReport.previous := (List.filterMap_map ..).symm
      rw [reports, Rollup.build_reports, filterMap_previous_reportOf, Rollup.build_previous]
      rfl
  case current =>
    intro n f found
    rw [Rollup.eq_reportOf found]
    cases last : lastNamed c.sourceFiles n with
    | some e => exact ⟨by simp [Rollup.reportOf, last], by simp [Rollup.reportOf, statsNamed, last]⟩
    | none => exact ⟨by simp [Rollup.reportOf, last], by simp [Rollup.reportOf, statsNamed, last],
        by simp [Rollup.reportOf, last]⟩

/-- A file that only the previous snapshot has is deleted and keeps its previous stats. -/
theorem Rollup.gone_file_is_deleted :
    let c : Snapshot := { sourceFiles := [⟨"src/kept.cpp", "k", [some 1]⟩] }
    let q : Snapshot := { sourceFiles := [⟨"src/gone.cpp", "g", [some 3, some 0]⟩] }
    let f := Rollup.reportOf c (some q) "src/gone.cpp"
    (Rollup.build c (some q)).files["src/gone.cpp"]? = some f ∧
      f.previous = some (Stats.ofCoverage [some 3, some 0]) ∧
      f.digest = none ∧ f.stats = {} ∧ f.coverage = [] := by
  intro c q f
  have filed : (Rollup.build c (some q)).files["src/gone.cpp"]? = some f := by
    rw [Rollup.getElem?_build_files, if_pos (by decide)]
  have sides := Rollup.build_sides c (some q)
  have previous := (sides.2.1 q rfl).1 _ _ filed
  have current := sides.2.2 _ _ filed
  have notCurrent : lastNamed c.sourceFiles "src/gone.cpp" = none := by decide
  have lastPrevious : lastNamed q.sourceFiles "src/gone.cpp" =
      some ⟨"src/gone.cpp", "g", [some 3, some 0]⟩ := by decide
  rw [notCurrent] at current
  rw [lastPrevious] at previous
  exact ⟨filed, previous, current⟩

/-! ## Exchanging the snapshots -/

theorem Rollup.mem_build_swap (a b : Snapshot) (n : String) :
    n ∈ (Rollup.build a (some b)).files ↔ n ∈ (Rollup.build b (some a)).files := by
  simp only [Rollup.mem_build_files, previousFiles, Option.map_some, Option.getD_some]
  exact or_comm

theorem Rollup.keys_perm_swap (a b : Snapshot) :
    (Rollup.build a (some b)).files.keys.Perm (Rollup.build b (some a)).files.keys := by
  rw [List.perm_ext_iff_of_nodup Std.TreeMap.nodup_keys Std.TreeMap.nodup_keys]
  intro n
  simp only [Std.TreeMap.mem_keys]
  exact Rollup.mem_build_swap a b n

theorem StatsDelta.mirrors_of_sides {s t : Stats} {ps pt : Option Stats} (hs : ps = some t)
    (ht : pt = some s) : (StatsDelta.between s ps).Mirrors (StatsDelta.between t pt) := by
  subst hs ht
  exact StatsDelta.between_mirrors s t

theorem StatsDelta.unmoved_of_side {s : Stats} {ps : Option Stats} (same : ps = some s) :
    (StatsDelta.between s ps).Unmoved := by
  subst same
  exact StatsDelta.between_self s

/-- Exchanging the two snapshots of a rollup exchanges its two sides. Both rollups have the
same files and directories; for every file, every directory and the total, the current stats
of one are the previous stats of the other, so every column of every delta moves the other
way by as much. A snapshot compared with itself has moved nowhere. -/
theorem Rollup.swapped_snapshots_mirror (a b : Snapshot) :
    let r := Rollup.build a (some b)
    let s := Rollup.build b (some a)
    (∀ n, n ∈ r.files ↔ n ∈ s.files) ∧ (∀ d, d ∈ r.dirs ↔ d ∈ s.dirs) ∧
    (∀ (n : String) (f g : FileReport), r.files[n]? = some f → s.files[n]? = some g →
      f.previous = some g.stats ∧ g.previous = some f.stats ∧ f.delta.Mirrors g.delta) ∧
    (∀ (d : String) (dr ds : DirectoryReport), r.dirs[d]? = some dr → s.dirs[d]? = some ds →
      dr.previous = some ds.stats ∧ ds.previous = some dr.stats ∧ dr.delta.Mirrors ds.delta) ∧
    (r.previous = some s.total ∧ s.previous = some r.total ∧ r.delta.Mirrors s.delta) ∧
    (∀ (n : String) (f : FileReport), (Rollup.build a (some a)).files[n]? = some f →
      f.delta.Unmoved) ∧
    (∀ (d : String) (dr : DirectoryReport), (Rollup.build a (some a)).dirs[d]? = some dr →
      dr.delta.Unmoved) ∧
    (Rollup.build a (some a)).delta.Unmoved := by
  intro r s
  have keys := Rollup.keys_perm_swap a b
  refine ⟨Rollup.mem_build_swap a b, ?dirs, ?files, ?directories, ?total, ?selfFiles, ?selfDirs,
    ?selfTotal⟩
  case dirs =>
    intro d
    simp only [Rollup.mem_build_dirs, keys.mem_iff, r, s]
  case files =>
    intro n f g inR inS
    rw [Rollup.eq_reportOf inR, Rollup.eq_reportOf inS]
    exact ⟨rfl, rfl, StatsDelta.mirrors_of_sides rfl rfl⟩
  case directories =>
    intro d dr ds inR inS
    -- the two directories list the same files, perhaps in another order
    have members := keys.filter (parentDir · = d)
    have sides : dr.previous = some ds.stats ∧ ds.previous = some dr.stats := by
      rw [Rollup.eq_dirOf inR, Rollup.eq_dirOf inS]
      exact ⟨congrArg some (Stats.sum_perm (members.map _)),
        congrArg some (Stats.sum_perm (members.symm.map _))⟩
    exact ⟨sides.1, sides.2, StatsDelta.mirrors_of_sides sides.1 sides.2⟩
  case total =>
    have sides : r.previous = some s.total ∧ s.previous = some r.total := by
      rw [Rollup.build_previous, Rollup.build_previous, Rollup.build_total, Rollup.build_total]
      exact ⟨congrArg some (Stats.sum_perm (keys.map _)),
        congrArg some (Stats.sum_perm (keys.symm.map _))⟩
    exact ⟨sides.1, sides.2, StatsDelta.mirrors_of_sides sides.1 sides.2⟩
  case selfFiles =>
    intro n f found
    rw [Rollup.eq_reportOf found]
    exact StatsDelta.unmoved_of_side rfl
  case selfDirs =>
    intro d dr found
    rw [Rollup.eq_dirOf found]
    exact StatsDelta.unmoved_of_side rfl
  case selfTotal =>
    have same : (Rollup.build a (some a)).previous = some (Rollup.build a (some a)).total := by
      rw [Rollup.build_previous, Rollup.build_total]
      rfl
    exact StatsDelta.unmoved_of_side same

/-- A file kept between two snapshots moves one way against the other and back the other way. -/
theorem Rollup.kept_file_mirrors :
    let a : Snapshot := { sourceFiles := [⟨"src/kept.cpp", "k", [some 1, some 1]⟩] }
    let b : Snapshot := { sourceFiles := [⟨"src/kept.cpp", "k", [some 1, some 0]⟩] }
    let f := Rollup.reportOf a (some b) "src/kept.cpp"
    let g := Rollup.reportOf b (some a) "src/kept.cpp"
    (Rollup.build a (some b)).files["src/kept.cpp"]? = some f ∧
      (Rollup.build b (some a)).files["src/kept.cpp"]? = some g ∧ f.delta.Mirrors g.delta := by
  intro a b f g
  have inR : (Rollup.build a (some b)).files["src/kept.cpp"]? = some f := by
    rw [Rollup.getElem?_build_files, if_pos (by decide)]
  have inS : (Rollup.build b (some a)).files["src/kept.cpp"]? = some g := by
    rw [Rollup.getElem?_build_files, if_pos (by decide)]
  exact ⟨inR, inS, ((Rollup.swapped_snapshots_mirror a b).2.2.1 _ _ _ inR inS).2.2⟩

end LineCoverage
