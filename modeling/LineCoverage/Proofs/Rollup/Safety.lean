import LineCoverage.Proofs.Rollup.Layout
import LineCoverage.Proofs.Stats.Deltas
import Mathlib
/-! Counters of a rollup neither overflow nor underflow.

Every stats a rollup holds, for a file, a directory or the total and on either side, keeps its
covered lines among its relevant lines and those among its lines (`Stats.Ordered`): a file's
stats are counted from a coverage vector and every other stats is a sum of such. So the missed
lines of every report row, a subtraction, never go below zero, and a delta never subtracts the
larger count from the smaller.

The additions of a rollup overflow only if its lines do, and the lines a rollup adds up on
one side are at most the lines of that snapshot's coverage vectors, however many entries share
a name. So when neither snapshot has 2^64 lines, the build with overflow checks succeeds with
the rollup.
-/

set_option autoImplicit false

namespace LineCoverage

/-! ## What a rollup adds up -/

theorem Stats.ordered_statsNamed (fs : List SourceFile) (n : String) : (statsNamed fs n).Ordered := by
  unfold statsNamed
  cases lastNamed fs n with
  | none => exact Stats.ordered_empty
  | some e => exact Stats.ordered_ofCoverage e.coverage

theorem Stats.ordered_of_mem_statsNamed {fs : List SourceFile} {names : List String} {s : Stats}
    (member : s ∈ names.map (statsNamed fs)) : s.Ordered := by
  obtain ⟨n, -, rfl⟩ := List.mem_map.mp member
  exact Stats.ordered_statsNamed fs n

theorem sum_map_ite_le {names : List String} (distinct : names.Nodup) (x : String) (a : Nat) :
    (names.map fun n => if x = n then a else 0).sum ≤ a := by
  induction names with
  | nil => simp
  | cons m rest ih =>
    obtain ⟨fresh, restDistinct⟩ := List.nodup_cons.mp distinct
    by_cases here : x = m
    · subst here
      have others : (rest.map fun n => if x = n then a else 0).sum = 0 := by
        apply List.sum_eq_zero
        intro y member
        obtain ⟨n, inRest, rfl⟩ := List.mem_map.mp member
        have apart : x ≠ n := fun same => fresh (same ▸ inRest)
        simp [apart]
      simp [others]
    · simp only [List.map_cons, List.sum_cons, if_neg here, Nat.zero_add]
      exact ih restDistinct

theorem sum_statsNamed_totalLines_le (fs : List SourceFile) {names : List String}
    (distinct : names.Nodup) :
    (names.map fun n => (statsNamed fs n).totalLines).sum ≤ (fs.map (·.coverage.length)).sum := by
  induction fs with
  | nil => simp [statsNamed, lastNamed]
  | cons f rest ih =>
    -- a name takes its lines from a later entry, or else from `f`
    have step : ∀ n, (statsNamed (f :: rest) n).totalLines ≤
        (statsNamed rest n).totalLines + if f.name = n then f.coverage.length else 0 := by
      intro n
      simp only [statsNamed, lastNamed_cons]
      cases lastNamed rest n with
      | some e => simp
      | none => by_cases named : f.name = n <;> simp [named]
    calc (names.map fun n => (statsNamed (f :: rest) n).totalLines).sum
        ≤ (names.map fun n => (statsNamed rest n).totalLines +
            if f.name = n then f.coverage.length else 0).sum := List.sum_le_sum fun n _ => step n
      _ = (names.map fun n => (statsNamed rest n).totalLines).sum +
            (names.map fun n => if f.name = n then f.coverage.length else 0).sum := List.sum_map_add
      _ ≤ (rest.map (·.coverage.length)).sum + f.coverage.length :=
          Nat.add_le_add ih (sum_map_ite_le distinct _ _)
      _ = ((f :: rest).map (·.coverage.length)).sum := by
          simp only [List.map_cons, List.sum_cons]
          omega

theorem sum_statsNamed_totalLines_fits (fs : List SourceFile) {names : List String}
    (distinct : names.Nodup) (small : (fs.map (·.coverage.length)).sum < 2 ^ 64) :
    (names.map fun n => (statsNamed fs n).totalLines).sum ≤ countLimit := by
  unfold countLimit
  exact Nat.le_sub_one_of_lt (Nat.lt_of_le_of_lt (sum_statsNamed_totalLines_le fs distinct) small)

theorem Rollup.ordered_reportOf (c : Snapshot) (p : Option Snapshot) (n : String) :
    (Rollup.reportOf c p n).stats.Ordered ∧
      ∀ q, (Rollup.reportOf c p n).previous = some q → q.Ordered := by
  refine ⟨Stats.ordered_statsNamed _ _, ?_⟩
  intro q side
  cases p with
  | none => cases side
  | some snapshot =>
    cases side
    exact Stats.ordered_statsNamed _ _

/-! ## Report rows -/

/-- A report row's counters compute without underflow: its missed lines, and its deltas against
the previous side, which compute the previous side's missed lines too. -/
def RowSafe (s : Stats) (previous : Option Stats) : Prop :=
  s.missedChecked = .ok s.missedLines ∧
    StatsDelta.betweenChecked s previous = .ok (StatsDelta.between s previous)

theorem rowSafe_of_ordered {s : Stats} {previous : Option Stats} (current : s.Ordered)
    (before : ∀ q, previous = some q → q.Ordered) : RowSafe s previous := by
  refine ⟨Stats.missedChecked_of_ordered current, ?_⟩
  cases previous with
  | none => simp [StatsDelta.betweenChecked, Stats.missedChecked_of_ordered current, bind,
      Except.bind, pure, Except.pure]
  | some q =>
    simp [StatsDelta.betweenChecked, Stats.missedChecked_of_ordered current,
      Stats.missedChecked_of_ordered (before q rfl), bind, Except.bind, pure, Except.pure]

/-! ## Checked additions -/

theorem foldlM_addPreviousChecked_none (xs : List (Option Stats)) :
    xs.foldlM addPreviousChecked none = .ok none := by
  induction xs with
  | nil => rfl
  | cons x rest ih => exact ih

theorem foldlM_addPreviousChecked_some (a : Stats) (xs : List Stats) :
    (xs.map some).foldlM addPreviousChecked (some a) = some <$> xs.foldlM Stats.addChecked a := by
  induction xs generalizing a with
  | nil => rfl
  | cons x rest ih =>
    simp only [List.map_cons, List.foldlM_cons]
    cases added : a.addChecked x with
    | error e => simp [addPreviousChecked, added, bind, Except.bind, Functor.map, Except.map]
    | ok b => simp [addPreviousChecked, added, bind, Except.bind, Functor.map, Except.map, ih]

theorem addPreviousChecked_of_fits {acc p : Option Stats}
    (fits : ∀ a q, acc = some a → p = some q →
      a.Ordered ∧ q.Ordered ∧ a.totalLines + q.totalLines ≤ countLimit) :
    addPreviousChecked acc p = .ok (addPrevious acc p) := by
  cases acc with
  | none => rfl
  | some a =>
    cases p with
    | none => rfl
    | some q =>
      obtain ⟨ha, hq, bound⟩ := fits a q rfl rfl
      simp [addPreviousChecked, addPrevious, Stats.addChecked_of_fits ha hq bound]

def dirBefore (diffed : Bool) (dirs : Std.TreeMap String DirectoryReport compare)
    (f : FileReport) : DirectoryReport :=
  dirs.getD (parentDir f.name) ⟨parentDir f.name, {}, if diffed then some {} else none, []⟩

theorem addToDirChecked_of_fits {diffed : Bool} {dirs : Std.TreeMap String DirectoryReport compare}
    {f : FileReport}
    (current : (dirBefore diffed dirs f).stats.Ordered ∧ f.stats.Ordered ∧
      (dirBefore diffed dirs f).stats.totalLines + f.stats.totalLines ≤ countLimit)
    (previous : ∀ a q, (dirBefore diffed dirs f).previous = some a → f.previous = some q →
      a.Ordered ∧ q.Ordered ∧ a.totalLines + q.totalLines ≤ countLimit) :
    addToDirChecked diffed dirs f = .ok (addToDir diffed dirs f) := by
  obtain ⟨hd, hf, bound⟩ := current
  have stats := Stats.addChecked_of_fits hd hf bound
  have sides := addPreviousChecked_of_fits previous
  simp only [dirBefore] at stats sides
  simp [addToDirChecked, addToDir, stats, sides, bind, Except.bind, pure, Except.pure]

theorem groupDir_previous {diffed : Bool} {d : String} {group : List FileReport} {a : Stats}
    (side : (groupDir diffed d group).previous = some a) :
    a = Stats.sum (group.filterMap (·.previous)) := by
  simp only [groupDir] at side
  -- a directory has a previous side only when it starts from an empty one
  have fromEmpty : (if diffed then some ({} : Stats) else none) = some {} := by
    cases diffed
    · simp [foldl_addPrevious_none] at side
    · rfl
  rw [fromEmpty, foldl_addPrevious_some, Option.some.injEq, List.filterMap_map] at side
  exact side.symm

theorem groupDir_bounded (diffed : Bool) (d : String) {fs group : List FileReport}
    (sub : group.Sublist fs)
    (ordered : ∀ g ∈ fs, g.stats.Ordered ∧ ∀ q, g.previous = some q → q.Ordered) :
    (groupDir diffed d group).stats.Ordered ∧
      (groupDir diffed d group).stats.totalLines ≤ (fs.map (·.stats.totalLines)).sum ∧
      ∀ a, (groupDir diffed d group).previous = some a →
        a.Ordered ∧ a.totalLines ≤ ((fs.filterMap (·.previous)).map (·.totalLines)).sum := by
  have members : ∀ g ∈ group, g ∈ fs := fun g member => sub.subset member
  refine ⟨?stats, ?lines, ?previous⟩
  case stats =>
    apply Stats.ordered_sum
    intro s member
    obtain ⟨g, inGroup, rfl⟩ := List.mem_map.mp member
    exact (ordered g (members g inGroup)).1
  case lines =>
    have within : ((group.map FileReport.stats).map (·.totalLines)).sum ≤
        (fs.map (·.stats.totalLines)).sum := by
      rw [List.map_map]
      exact (sub.map _).sum_le_sum (fun _ _ => Nat.zero_le _)
    simp only [groupDir, Stats.sum_eq]
    exact within
  case previous =>
    intro a side
    rw [groupDir_previous side]
    refine ⟨?_, ?_⟩
    · apply Stats.ordered_sum
      intro s member
      obtain ⟨g, inGroup, named⟩ := List.mem_filterMap.mp member
      exact (ordered g (members g inGroup)).2 s named
    · simp only [Stats.sum_eq]
      exact ((sub.filterMap _).map _).sum_le_sum (fun _ _ => Nat.zero_le _)

theorem foldlM_addToDirChecked (diffed : Bool) (fs : List FileReport)
    (ordered : ∀ f ∈ fs, f.stats.Ordered ∧ ∀ q, f.previous = some q → q.Ordered)
    (fitsCurrent : (fs.map (·.stats.totalLines)).sum ≤ countLimit)
    (fitsPrevious : ((fs.filterMap (·.previous)).map (·.totalLines)).sum ≤ countLimit) :
    fs.foldlM (addToDirChecked diffed) {} = .ok (fs.foldl (addToDir diffed) {}) := by
  induction fs using List.reverseRecOn with
  | nil => rfl
  | append_singleton fs f ih =>
    have earlier : ∀ g ∈ fs, g.stats.Ordered ∧ ∀ q, g.previous = some q → q.Ordered :=
      fun g member => ordered g (List.mem_append_left _ member)
    have last := ordered f (by simp)
    have fitsCurrent' : (fs.map (·.stats.totalLines)).sum + f.stats.totalLines ≤ countLimit := by
      simpa using fitsCurrent
    have fitsPrevious' : ((fs.filterMap (·.previous)).map (·.totalLines)).sum +
        ((f.previous.map (·.totalLines)).getD 0) ≤ countLimit := by
      cases side : f.previous <;> simpa [List.filterMap_append, side] using fitsPrevious
    rw [List.foldlM_append, ih earlier (by omega) (by omega), List.foldl_append]
    -- the directory before `f` is the group of its files among `fs`
    have before : dirBefore diffed (fs.foldl (addToDir diffed) {}) f =
        groupDir diffed (parentDir f.name) (fs.filter (parentDir ·.name = parentDir f.name)) :=
      getD_foldl_addToDir diffed fs (parentDir f.name)
    obtain ⟨orderedDir, linesDir, previousDir⟩ :=
      groupDir_bounded diffed (parentDir f.name) List.filter_sublist earlier
    have step : addToDirChecked diffed (fs.foldl (addToDir diffed) {}) f =
        .ok (addToDir diffed (fs.foldl (addToDir diffed) {}) f) := by
      apply addToDirChecked_of_fits
      · rw [before]
        exact ⟨orderedDir, last.1, by omega⟩
      · intro a q running side
        rw [before] at running
        obtain ⟨orderedA, linesA⟩ := previousDir a running
        simp only [side, Option.map_some, Option.getD_some] at fitsPrevious'
        exact ⟨orderedA, last.2 q side, by omega⟩
    simp [step, bind, Except.bind, pure, Except.pure]

/-! ## The checked build -/

theorem Rollup.buildChecked_eq (c : Snapshot) (p : Option Snapshot) :
    Rollup.buildChecked c p =
      ((((Rollup.build c p).files.toList.map (·.2)).map (·.stats)).foldlM Stats.addChecked {}) >>=
        fun total =>
      ((((Rollup.build c p).files.toList.map (·.2)).map (·.previous)).foldlM addPreviousChecked
        (if p.isSome then some {} else none)) >>= fun previousTotal =>
      (((Rollup.build c p).files.toList.map (·.2)).foldlM (addToDirChecked p.isSome) {}) >>=
        fun dirs => pure { total, previous := previousTotal, files := (Rollup.build c p).files, dirs } :=
  rfl

section Folds

variable (c : Snapshot) (p : Option Snapshot)

theorem Rollup.ordered_build_reports :
    ∀ f ∈ (Rollup.build c p).files.toList.map (·.2),
      f.stats.Ordered ∧ ∀ q, f.previous = some q → q.Ordered := by
  intro f member
  rw [Rollup.build_reports] at member
  obtain ⟨n, -, rfl⟩ := List.mem_map.mp member
  exact Rollup.ordered_reportOf c p n

theorem Rollup.build_current_lines_fit
    (current : (c.sourceFiles.map (·.coverage.length)).sum < 2 ^ 64) :
    (((Rollup.build c p).files.toList.map (·.2)).map (·.stats.totalLines)).sum ≤ countLimit := by
  rw [Rollup.build_reports, List.map_map]
  exact sum_statsNamed_totalLines_fits c.sourceFiles Std.TreeMap.nodup_keys current

theorem Rollup.build_previous_lines_fit
    (previous : ∀ q ∈ p, (q.sourceFiles.map (·.coverage.length)).sum < 2 ^ 64) :
    ((((Rollup.build c p).files.toList.map (·.2)).filterMap (·.previous)).map
      (·.totalLines)).sum ≤ countLimit := by
  rw [Rollup.build_reports]
  cases p with
  | none =>
    have absent : ((Rollup.build c none).files.keys.map (Rollup.reportOf c none)).filterMap
        (·.previous) = [] := by
      rw [List.filterMap_eq_nil_iff]
      intro f member
      obtain ⟨n, -, rfl⟩ := List.mem_map.mp member
      rfl
    rw [absent]
    exact Nat.zero_le _
  | some q =>
    rw [filterMap_previous_reportOf, List.map_map]
    exact sum_statsNamed_totalLines_fits q.sourceFiles Std.TreeMap.nodup_keys (previous q rfl)

theorem Rollup.foldlM_total_checked
    (current : (c.sourceFiles.map (·.coverage.length)).sum < 2 ^ 64) :
    (((Rollup.build c p).files.toList.map (·.2)).map (·.stats)).foldlM Stats.addChecked {} =
      .ok (Rollup.build c p).total := by
  have ordered : ∀ s ∈ ((Rollup.build c p).files.toList.map (·.2)).map (·.stats), s.Ordered := by
    intro s member
    obtain ⟨f, inReports, rfl⟩ := List.mem_map.mp member
    exact (Rollup.ordered_build_reports c p f inReports).1
  have fits := Rollup.build_current_lines_fit c p current
  rw [Stats.foldlM_addChecked _ _ ordered Stats.ordered_empty
    (by simpa [Function.comp_def] using fits)]
  rfl

theorem Rollup.foldlM_previous_checked
    (previous : ∀ q ∈ p, (q.sourceFiles.map (·.coverage.length)).sum < 2 ^ 64) :
    (((Rollup.build c p).files.toList.map (·.2)).map (·.previous)).foldlM addPreviousChecked
      (if p.isSome then some {} else none) = .ok (Rollup.build c p).previous := by
  have fits := Rollup.build_previous_lines_fit c p previous
  rw [Rollup.build_reports] at fits ⊢
  cases p with
  | none =>
    rw [Option.isSome_none, if_neg Bool.false_ne_true, foldlM_addPreviousChecked_none,
      Rollup.build_previous]
    rfl
  | some q =>
    -- with a previous snapshot every report has a previous side: its stats there
    have sides : ((Rollup.build c (some q)).files.keys.map (Rollup.reportOf c (some q))).map
        (·.previous) = ((Rollup.build c (some q)).files.keys.map (statsNamed q.sourceFiles)).map some := by
      rw [List.map_map, List.map_map]
      rfl
    rw [filterMap_previous_reportOf] at fits
    rw [sides, Option.isSome_some, if_pos rfl, foldlM_addPreviousChecked_some,
      Stats.foldlM_addChecked _ _ (fun _ => Stats.ordered_of_mem_statsNamed) Stats.ordered_empty
        (by simpa using fits),
      Rollup.build_previous]
    rfl

theorem Rollup.foldlM_dirs_checked
    (current : (c.sourceFiles.map (·.coverage.length)).sum < 2 ^ 64)
    (previous : ∀ q ∈ p, (q.sourceFiles.map (·.coverage.length)).sum < 2 ^ 64) :
    ((Rollup.build c p).files.toList.map (·.2)).foldlM (addToDirChecked p.isSome) {} =
      .ok (Rollup.build c p).dirs := by
  rw [Rollup.build_dirs_eq]
  exact foldlM_addToDirChecked _ _ (Rollup.ordered_build_reports c p)
    (Rollup.build_current_lines_fit c p current) (Rollup.build_previous_lines_fit c p previous)

/-- With fewer than 2^64 lines in each snapshot, building a rollup with overflow checks
succeeds with the rollup. -/
theorem Rollup.buildChecked_eq_ok
    (current : (c.sourceFiles.map (·.coverage.length)).sum < 2 ^ 64)
    (previous : ∀ q ∈ p, (q.sourceFiles.map (·.coverage.length)).sum < 2 ^ 64) :
    Rollup.buildChecked c p = .ok (Rollup.build c p) := by
  rw [Rollup.buildChecked_eq, Rollup.foldlM_total_checked c p current,
    Rollup.foldlM_previous_checked c p previous, Rollup.foldlM_dirs_checked c p current previous]
  rfl

end Folds

/-! ## The rows of a rollup -/

theorem Stats.ordered_sum_statsNamed (fs : List SourceFile) (names : List String) :
    (Stats.sum (names.map (statsNamed fs))).Ordered :=
  Stats.ordered_sum fun _ => Stats.ordered_of_mem_statsNamed

theorem Rollup.rowSafe_total (c : Snapshot) (p : Option Snapshot) :
    RowSafe (Rollup.build c p).total (Rollup.build c p).previous := by
  apply rowSafe_of_ordered
  · rw [Rollup.build_total]
    exact Stats.ordered_sum_statsNamed _ _
  · intro q side
    rw [Rollup.build_previous] at side
    obtain ⟨snapshot, -, rfl⟩ := Option.map_eq_some_iff.mp side
    exact Stats.ordered_sum_statsNamed _ _

theorem Rollup.rowSafe_dir {c : Snapshot} {p : Option Snapshot} {d : String}
    {dr : DirectoryReport} (found : (Rollup.build c p).dirs[d]? = some dr) :
    RowSafe dr.stats dr.previous := by
  rw [Rollup.eq_dirOf found]
  apply rowSafe_of_ordered (Stats.ordered_sum_statsNamed _ _)
  intro q side
  obtain ⟨snapshot, -, rfl⟩ := Option.map_eq_some_iff.mp side
  exact Stats.ordered_sum_statsNamed _ _

theorem Rollup.rowSafe_file {c : Snapshot} {p : Option Snapshot} {n : String}
    {f : FileReport} (found : (Rollup.build c p).files[n]? = some f) :
    RowSafe f.stats f.previous := by
  rw [Rollup.eq_reportOf found]
  exact rowSafe_of_ordered (Rollup.ordered_reportOf c p n).1 (Rollup.ordered_reportOf c p n).2

/-- The counters of a rollup stay in range. Stats counted from a coverage vector keep covered
lines among relevant lines among all lines, and adding stats keeps that order. So when each
snapshot has fewer than 2^64 lines, building the rollup with overflow checks succeeds, the
missed lines and the deltas of the total, of every directory and of every file compute without
going below zero, and the delta of a count moves by the distance between the two counts. -/
theorem Rollup.counters_in_range (c : Snapshot) (p : Option Snapshot)
    (current : (c.sourceFiles.map (·.coverage.length)).sum < 2 ^ 64)
    (previous : ∀ q ∈ p, (q.sourceFiles.map (·.coverage.length)).sum < 2 ^ 64) :
    let r := Rollup.build c p
    (∀ cov, (Stats.ofCoverage cov).Ordered) ∧
    (∀ a b : Stats, a.Ordered → b.Ordered → (a + b).Ordered) ∧
    Rollup.buildChecked c p = .ok r ∧
    RowSafe r.total r.previous ∧
    (∀ (d : String) (dr : DirectoryReport), r.dirs[d]? = some dr → RowSafe dr.stats dr.previous) ∧
    (∀ (n : String) (f : FileReport), r.files[n]? = some f → RowSafe f.stats f.previous) ∧
    ∀ x y : Nat, (Delta.ofCounts x (some y)).magnitude = ((x : Int) - y).natAbs :=
  ⟨Stats.ordered_ofCoverage, fun _ _ => Stats.Ordered.add,
    Rollup.buildChecked_eq_ok c p current previous, Rollup.rowSafe_total c p,
    fun _ _ => Rollup.rowSafe_dir, fun _ _ => Rollup.rowSafe_file, Delta.ofCounts_magnitude⟩

/-- A snapshot against a previous one, both far below 2^64 lines: the checked build succeeds. -/
theorem Rollup.checked_build_of_small_snapshots :
    let c : Snapshot := { sourceFiles :=
      [⟨"a/x.cpp", "d", [some 1, none, some 0]⟩, ⟨"b/z.cpp", "e", [none, none]⟩] }
    let q : Snapshot := { sourceFiles := [⟨"a/x.cpp", "d", [some 3]⟩] }
    (c.sourceFiles.map (·.coverage.length)).sum < 2 ^ 64 ∧
      (∀ s ∈ some q, (s.sourceFiles.map (·.coverage.length)).sum < 2 ^ 64) ∧
      Rollup.buildChecked c (some q) = .ok (Rollup.build c (some q)) := by
  intro c q
  have fits : (c.sourceFiles.map (·.coverage.length)).sum < 2 ^ 64 := by decide
  have fitsPrevious : ∀ s ∈ some q, (s.sourceFiles.map (·.coverage.length)).sum < 2 ^ 64 := by
    intro s member
    cases member
    decide
  exact ⟨fits, fitsPrevious, (Rollup.counters_in_range c (some q) fits fitsPrevious).2.2.1⟩

end LineCoverage
