import LineCoverage.Rollup
import LineCoverage.Proofs.Stats.Sums
import Mathlib
/-! What a rollup holds, in closed form.

The files of a rollup are the names of the current snapshot together with those of the
previous one. A name's report takes its current side from the last current entry under that
name and its previous side, when there is a previous snapshot, from the last previous entry,
with empty stats on a side that has no entry (`Rollup.reportOf`). A directory lists, in name
order, the files whose directory part it is, with the sums of their two sides
(`Rollup.dirOf`), and the total and its previous side are the sums over all files.

Everything later said about rollups is read off these equations and not off the folds that
build the maps: the folds are opened once here, one lemma per fold.
-/

set_option autoImplicit false

namespace LineCoverage

/-! ## The last entry under a name -/

/-- The last entry of `fs` named `n`: the one that later insertions under that name leave. -/
def lastNamed (fs : List SourceFile) (n : String) : Option SourceFile :=
  (fs.filter (·.name = n)).getLast?

theorem lastNamed_cons (f : SourceFile) (rest : List SourceFile) (n : String) :
    lastNamed (f :: rest) n = (lastNamed rest n).or (if f.name = n then some f else none) := by
  rw [lastNamed, lastNamed, ← List.singleton_append, List.filter_append, List.getLast?_append]
  by_cases named : f.name = n <;> simp [named]

theorem lastNamed_eq_none {fs : List SourceFile} {n : String} :
    lastNamed fs n = none ↔ ∀ f ∈ fs, f.name ≠ n := by
  simp [lastNamed]

theorem lastNamed_eq_some {fs : List SourceFile} {n : String} {f : SourceFile}
    (found : lastNamed fs n = some f) : f ∈ fs ∧ f.name = n := by
  simpa using List.mem_of_getLast? found

theorem lastNamed_of_nodup {fs : List SourceFile} {f : SourceFile}
    (distinct : (fs.map (·.name)).Nodup) (member : f ∈ fs) : lastNamed fs f.name = some f := by
  cases found : lastNamed fs f.name with
  | none => exact absurd rfl (lastNamed_eq_none.mp found f member)
  | some g =>
    obtain ⟨other, named⟩ := lastNamed_eq_some found
    rw [List.inj_on_of_nodup_map distinct other member named]

def statsNamed (fs : List SourceFile) (n : String) : Stats :=
  ((lastNamed fs n).map fun f => Stats.ofCoverage f.coverage).getD {}

theorem statsNamed_of_none {fs : List SourceFile} {n : String} (absent : ∀ f ∈ fs, f.name ≠ n) :
    statsNamed fs n = {} := by
  simp [statsNamed, lastNamed_eq_none.mpr absent]

/-! ## Reports of files and directories -/

def previousFiles (p : Option Snapshot) : List SourceFile := (p.map Snapshot.sourceFiles).getD []

/-- The report of name `n`: its current side from the last current entry under that name,
its previous side, when there is a previous snapshot, from the last previous entry, and empty
stats on a side without one. -/
def Rollup.reportOf (c : Snapshot) (p : Option Snapshot) (n : String) : FileReport :=
  { name := n
    stats := statsNamed c.sourceFiles n
    previous := p.map fun q => statsNamed q.sourceFiles n
    digest := (lastNamed c.sourceFiles n).map (·.digest)
    coverage := ((lastNamed c.sourceFiles n).map (·.coverage)).getD [] }

def Rollup.dirOf (c : Snapshot) (p : Option Snapshot) (d : String) (members : List String) :
    DirectoryReport :=
  { name := d
    stats := Stats.sum (members.map (statsNamed c.sourceFiles))
    previous := p.map fun q => Stats.sum (members.map (statsNamed q.sourceFiles))
    files := members }

/-! ## The file map -/

def currentReport (diffed : Bool) (f : SourceFile) : FileReport :=
  ⟨f.name, Stats.ofCoverage f.coverage, if diffed then some {} else none, some f.digest, f.coverage⟩

theorem getElem?_foldl_insert (report : SourceFile → FileReport) (fs : List SourceFile)
    (m : Std.TreeMap String FileReport compare) (n : String) :
    (fs.foldl (fun m f => m.insert f.name (report f)) m)[n]? =
      ((lastNamed fs n).map report).or m[n]? := by
  induction fs generalizing m with
  | nil => rfl
  | cons f rest ih =>
    rw [List.foldl_cons, ih, Std.TreeMap.getElem?_insert, lastNamed_cons]
    by_cases named : f.name = n
    · cases lastNamed rest n <;> simp [named]
    · cases lastNamed rest n <;> simp [named]

theorem getElem?_currentFiles (diffed : Bool) (fs : List SourceFile) (n : String) :
    (currentFiles diffed fs)[n]? = (lastNamed fs n).map (currentReport diffed) := by
  have folded := getElem?_foldl_insert (currentReport diffed) fs {} n
  rw [Std.TreeMap.getElem?_emptyc, Option.or_none] at folded
  exact folded

/-- Each previous entry sets the previous side of its name, over whatever report the name
has, or over a deleted one. -/
theorem getElem?_withPrevious (m : Std.TreeMap String FileReport compare) (fs : List SourceFile)
    (n : String) :
    (withPrevious m fs)[n]? =
      match lastNamed fs n with
      | some g => some { m.getD n ⟨n, {}, none, none, []⟩ with
          previous := some (Stats.ofCoverage g.coverage) }
      | none => m[n]? := by
  induction fs generalizing m with
  | nil => rfl
  | cons f rest ih =>
    have step : withPrevious m (f :: rest) = withPrevious (m.insert f.name
        { m.getD f.name ⟨f.name, {}, none, none, []⟩ with
          previous := some (Stats.ofCoverage f.coverage) }) rest := rfl
    rw [step, ih, lastNamed_cons]
    -- a later entry of the name overwrites the previous side an earlier one set
    cases lastNamed rest n with
    | some g =>
      by_cases named : f.name = n
      · subst named
        simp
      · simp [Std.TreeMap.getD_insert, named]
    | none =>
      by_cases named : f.name = n
      · subst named
        simp
      · simp [Std.TreeMap.getElem?_insert, named]

theorem Rollup.build_files_eq (c : Snapshot) (p : Option Snapshot) :
    (Rollup.build c p).files =
      withPrevious (currentFiles p.isSome c.sourceFiles) (previousFiles p) := rfl

theorem Rollup.getElem?_build_files (c : Snapshot) (p : Option Snapshot) (n : String) :
    (Rollup.build c p).files[n]? =
      if (∃ f ∈ c.sourceFiles, f.name = n) ∨ ∃ f ∈ previousFiles p, f.name = n then
        some (Rollup.reportOf c p n)
      else none := by
  rw [Rollup.build_files_eq, getElem?_withPrevious]
  cases previous : lastNamed (previousFiles p) n with
  | some g =>
    obtain ⟨member, named⟩ := lastNamed_eq_some previous
    -- an entry of the previous files means there is a previous snapshot
    cases p with
    | none => simp [previousFiles] at member
    | some q =>
      rw [if_pos (.inr ⟨g, member, named⟩), Std.TreeMap.getD_eq_getD_getElem?,
        getElem?_currentFiles]
      cases current : lastNamed c.sourceFiles n with
      | none => simp_all [Rollup.reportOf, statsNamed, previousFiles]
      | some e =>
        have same := (lastNamed_eq_some current).2
        simp_all [Rollup.reportOf, statsNamed, currentReport, previousFiles]
  | none =>
    rw [getElem?_currentFiles]
    have absent := lastNamed_eq_none.mp previous
    cases current : lastNamed c.sourceFiles n with
    | none =>
      have gone := lastNamed_eq_none.mp current
      simp only [Option.map_none]
      rw [if_neg]
      rintro (⟨f, member, named⟩ | ⟨f, member, named⟩)
      exacts [gone f member named, absent f member named]
    | some e =>
      obtain ⟨member, named⟩ := lastNamed_eq_some current
      rw [if_pos (.inl ⟨e, member, named⟩)]
      cases p with
      | none => simp [Rollup.reportOf, statsNamed, currentReport, current, named]
      | some q =>
        have untouched : lastNamed q.sourceFiles n = none := previous
        simp [Rollup.reportOf, statsNamed, currentReport, current, named, untouched]

theorem Rollup.eq_reportOf {c : Snapshot} {p : Option Snapshot} {n : String} {f : FileReport}
    (found : (Rollup.build c p).files[n]? = some f) : f = Rollup.reportOf c p n := by
  rw [Rollup.getElem?_build_files] at found
  split at found
  · exact (Option.some.inj found).symm
  · cases found

theorem Rollup.mem_build_files (c : Snapshot) (p : Option Snapshot) (n : String) :
    n ∈ (Rollup.build c p).files ↔
      (∃ f ∈ c.sourceFiles, f.name = n) ∨ ∃ f ∈ previousFiles p, f.name = n := by
  rw [Std.TreeMap.mem_iff_isSome_getElem?, Rollup.getElem?_build_files]
  split <;> simp_all

theorem toList_eq_map_keys {β : Type} {m : Std.TreeMap String β compare} (entry : String → β)
    (determined : ∀ k v, m[k]? = some v → v = entry k) :
    m.toList = m.keys.map fun k => (k, entry k) := by
  have listed : ∀ e ∈ m.toList, e = (e.1, entry e.1) := by
    rintro ⟨k, v⟩ member
    rw [determined k v (Std.TreeMap.mem_toList_iff_getElem?_eq_some.mp member)]
  calc m.toList = m.toList.map fun e => (e.1, entry e.1) := by
        conv_lhs => rw [← List.map_id m.toList]
        exact List.map_congr_left listed
    _ = m.keys.map fun k => (k, entry k) := by
        rw [← Std.TreeMap.map_fst_toList_eq_keys, List.map_map]
        rfl

theorem Rollup.build_files_toList (c : Snapshot) (p : Option Snapshot) :
    (Rollup.build c p).files.toList =
      (Rollup.build c p).files.keys.map fun n => (n, Rollup.reportOf c p n) :=
  toList_eq_map_keys _ fun _ _ => Rollup.eq_reportOf

theorem Rollup.build_reports (c : Snapshot) (p : Option Snapshot) :
    (Rollup.build c p).files.toList.map (·.2) =
      (Rollup.build c p).files.keys.map (Rollup.reportOf c p) := by
  rw [Rollup.build_files_toList, List.map_map]
  rfl

theorem filterMap_previous_reportOf (c q : Snapshot) (names : List String) :
    (names.map (Rollup.reportOf c (some q))).filterMap FileReport.previous =
      names.map (statsNamed q.sourceFiles) := by
  rw [List.filterMap_map, ← List.filterMap_eq_map]
  rfl

/-! ## Sums of the previous sides -/

theorem foldl_addPrevious_none (xs : List (Option Stats)) : xs.foldl addPrevious none = none := by
  induction xs with
  | nil => rfl
  | cons x rest ih => exact ih

theorem foldl_addPrevious_some (a : Stats) (xs : List (Option Stats)) :
    xs.foldl addPrevious (some a) = some ((xs.filterMap id).foldl (· + ·) a) := by
  induction xs generalizing a with
  | nil => rfl
  | cons x rest ih =>
    cases x with
    | none => exact ih a
    | some x => exact ih (a + x)

theorem foldl_addPrevious_names (p : Option Snapshot) (names : List String) :
    (names.map fun n => p.map fun q => statsNamed q.sourceFiles n).foldl addPrevious
        (if p.isSome then some {} else none) =
      p.map fun q => Stats.sum (names.map (statsNamed q.sourceFiles)) := by
  cases p with
  | none => exact foldl_addPrevious_none _
  | some q =>
    have sides : (names.map fun n => (some q).map fun q => statsNamed q.sourceFiles n).filterMap id =
        names.map (statsNamed q.sourceFiles) := by
      simp [List.filterMap_map]
    rw [Option.isSome_some, if_pos rfl, foldl_addPrevious_some, sides]
    rfl

/-! ## Totals -/

theorem Rollup.build_total (c : Snapshot) (p : Option Snapshot) :
    (Rollup.build c p).total =
      Stats.sum ((Rollup.build c p).files.keys.map (statsNamed c.sourceFiles)) := by
  have total : (Rollup.build c p).total =
      Stats.sum (((Rollup.build c p).files.toList.map (·.2)).map FileReport.stats) := rfl
  rw [total, Rollup.build_reports, List.map_map]
  rfl

theorem Rollup.build_previous (c : Snapshot) (p : Option Snapshot) :
    (Rollup.build c p).previous =
      p.map fun q => Stats.sum ((Rollup.build c p).files.keys.map (statsNamed q.sourceFiles)) := by
  have previous : (Rollup.build c p).previous =
      (((Rollup.build c p).files.toList.map (·.2)).map FileReport.previous).foldl addPrevious
        (if p.isSome then some {} else none) := by
    simp only [Rollup.build, List.foldl_map]
  rw [previous, Rollup.build_reports, List.map_map]
  exact foldl_addPrevious_names p _

/-! ## Directories -/

def groupDir (diffed : Bool) (d : String) (group : List FileReport) : DirectoryReport :=
  { name := d
    stats := Stats.sum (group.map FileReport.stats)
    previous := (group.map FileReport.previous).foldl addPrevious (if diffed then some {} else none)
    files := group.map FileReport.name }

theorem getD_eq_groupDir {diffed : Bool} {fs : List FileReport} {d : String}
    {dirs : Std.TreeMap String DirectoryReport compare}
    (found : dirs[d]? = if ∃ f ∈ fs, parentDir f.name = d then
        some (groupDir diffed d (fs.filter (parentDir ·.name = d))) else none) :
    dirs.getD d ⟨d, {}, if diffed then some {} else none, []⟩ =
      groupDir diffed d (fs.filter (parentDir ·.name = d)) := by
  rw [Std.TreeMap.getD_eq_getD_getElem?, found]
  split
  · rfl
  · rename_i none
    have empty : fs.filter (parentDir ·.name = d) = [] := by
      rw [List.filter_eq_nil_iff]
      intro g member here
      exact none ⟨g, member, by simpa using here⟩
    rw [empty]
    rfl

/-- Folding files into directories groups them by directory part: a directory exists once one
of its files has come, and holds its files in the order they came. -/
theorem getElem?_foldl_addToDir (diffed : Bool) (fs : List FileReport) (d : String) :
    (fs.foldl (addToDir diffed) {})[d]? =
      if ∃ f ∈ fs, parentDir f.name = d then
        some (groupDir diffed d (fs.filter (parentDir ·.name = d)))
      else none := by
  induction fs using List.reverseRecOn with
  | nil => simp
  | append_singleton fs f ih =>
    rw [List.foldl_append, List.foldl_cons, List.foldl_nil]
    by_cases here : parentDir f.name = d
    · -- `f` joins the group of its directory
      subst here
      have grown : (fs ++ [f]).filter (parentDir ·.name = parentDir f.name) =
          fs.filter (parentDir ·.name = parentDir f.name) ++ [f] := by
        simp [List.filter_append]
      rw [if_pos ⟨f, by simp, rfl⟩, grown]
      simp only [addToDir, getD_eq_groupDir ih, Std.TreeMap.getElem?_insert_self]
      simp [groupDir, Stats.sum_append_singleton, List.foldl_append]
    · have other : (fs ++ [f]).filter (parentDir ·.name = d) = fs.filter (parentDir ·.name = d) := by
        simp [List.filter_append, here]
      have seen : (∃ g ∈ fs ++ [f], parentDir g.name = d) ↔ ∃ g ∈ fs, parentDir g.name = d := by
        simp [here]
      rw [other, if_congr seen rfl rfl, ← ih]
      simp [addToDir, Std.TreeMap.getElem?_insert, here]

theorem getD_foldl_addToDir (diffed : Bool) (fs : List FileReport) (d : String) :
    (fs.foldl (addToDir diffed) {}).getD d ⟨d, {}, if diffed then some {} else none, []⟩ =
      groupDir diffed d (fs.filter (parentDir ·.name = d)) :=
  getD_eq_groupDir (getElem?_foldl_addToDir diffed fs d)

theorem Rollup.build_dirs_eq (c : Snapshot) (p : Option Snapshot) :
    (Rollup.build c p).dirs =
      ((Rollup.build c p).files.toList.map (·.2)).foldl (addToDir p.isSome) {} := rfl

theorem Rollup.getElem?_build_dirs (c : Snapshot) (p : Option Snapshot) (d : String) :
    (Rollup.build c p).dirs[d]? =
      if ∃ n ∈ (Rollup.build c p).files.keys, parentDir n = d then
        some (Rollup.dirOf c p d ((Rollup.build c p).files.keys.filter (parentDir · = d)))
      else none := by
  rw [Rollup.build_dirs_eq, Rollup.build_reports, getElem?_foldl_addToDir]
  have seen : (∃ f ∈ (Rollup.build c p).files.keys.map (Rollup.reportOf c p), parentDir f.name = d) ↔
      ∃ n ∈ (Rollup.build c p).files.keys, parentDir n = d := by
    simp [Rollup.reportOf]
  have group : ((Rollup.build c p).files.keys.map (Rollup.reportOf c p)).filter
        (parentDir ·.name = d) =
      ((Rollup.build c p).files.keys.filter (parentDir · = d)).map (Rollup.reportOf c p) := by
    rw [List.filter_map]
    rfl
  rw [if_congr seen rfl rfl, group]
  split
  · simp only [groupDir, Rollup.dirOf, List.map_map]
    congr 2
    · exact foldl_addPrevious_names p _
    · exact List.map_id _
  · rfl

theorem Rollup.eq_dirOf {c : Snapshot} {p : Option Snapshot} {d : String} {dr : DirectoryReport}
    (found : (Rollup.build c p).dirs[d]? = some dr) :
    dr = Rollup.dirOf c p d ((Rollup.build c p).files.keys.filter (parentDir · = d)) := by
  rw [Rollup.getElem?_build_dirs] at found
  split at found
  · exact (Option.some.inj found).symm
  · cases found

theorem Rollup.mem_build_dirs (c : Snapshot) (p : Option Snapshot) (d : String) :
    d ∈ (Rollup.build c p).dirs ↔ ∃ n ∈ (Rollup.build c p).files.keys, parentDir n = d := by
  rw [Std.TreeMap.mem_iff_isSome_getElem?, Rollup.getElem?_build_dirs]
  split <;> simp_all

theorem Rollup.build_dirs_toList (c : Snapshot) (p : Option Snapshot) :
    (Rollup.build c p).dirs.toList =
      (Rollup.build c p).dirs.keys.map fun d =>
        (d, Rollup.dirOf c p d ((Rollup.build c p).files.keys.filter (parentDir · = d))) :=
  toList_eq_map_keys _ fun _ _ => Rollup.eq_dirOf

theorem Rollup.filesIn_build (c : Snapshot) (p : Option Snapshot) (dr : DirectoryReport)
    (filed : ∀ n ∈ dr.files, n ∈ (Rollup.build c p).files) :
    (Rollup.build c p).filesIn dr = dr.files.map (Rollup.reportOf c p) := by
  rw [Rollup.filesIn, ← List.filterMap_eq_map]
  apply List.filterMap_congr
  intro n member
  rw [Std.TreeMap.get?_eq_getElem?, Rollup.getElem?_build_files,
    if_pos ((Rollup.mem_build_files c p n).mp (filed n member))]
  rfl

theorem Rollup.filesIn_of_found {c : Snapshot} {p : Option Snapshot} {d : String}
    {dr : DirectoryReport} (found : (Rollup.build c p).dirs[d]? = some dr) :
    (Rollup.build c p).filesIn dr = dr.files.map (Rollup.reportOf c p) := by
  apply Rollup.filesIn_build
  intro n member
  rw [Rollup.eq_dirOf found] at member
  exact Std.TreeMap.mem_keys.mp (List.mem_of_mem_filter member)

end LineCoverage
