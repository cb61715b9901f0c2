import LineCoverage.Proofs.Coverage.Reaggregate
import LineCoverage.Proofs.Rollup.Partition
import Mathlib
/-! Counting lines end to end.

A finished file has an entry for each line up to its line count or its highest line held,
whichever is further: the total of a line some record names, and nothing for every other line. A line whose records ran it but never hit it so holds a zero,
relevant and not covered, while a line no record names is no relevant line at all; and the
records of one line, from however many dumps, were summed into one total, so the line counts
once. Over all files of an aggregation the stats therefore count the distinct lines that
admitted records name in files whose source is found, those of them some record hits, and
the hits of all their records capped once (`aggregate_counts_lines`).
-/

set_option autoImplicit false

namespace LineCoverage

/-! ## A finished file's stats -/

theorem filterMap_range'_eq {β : Type} (entries : List (Nat × β)) (lookup : Nat → Option β)
    (lo n : Nat) (sorted : entries.Pairwise (·.1 < ·.1))
    (inside : ∀ e ∈ entries, lo ≤ e.1 ∧ e.1 < lo + n)
    (found : ∀ k v, lookup k = some v ↔ (k, v) ∈ entries) :
    (List.range' lo n).filterMap lookup = entries.map Prod.snd := by
  have keyed : (List.range' lo n).filterMap (fun k => (lookup k).map (k, ·)) = entries := by
    have : Std.Irrefl fun a b : Nat × β => a.1 < b.1 := ⟨fun a => Nat.lt_irrefl a.1⟩
    have : Std.Antisymm fun a b : Nat × β => a.1 < b.1 :=
      ⟨fun a b below above => absurd (Nat.lt_trans below above) (Nat.lt_irrefl a.1)⟩
    apply List.Pairwise.eq_of_mem_iff _ sorted
    · intro e
      simp only [List.mem_filterMap, List.mem_range'_1, Option.map_eq_some_iff]
      constructor
      · rintro ⟨k, -, v, hit, rfl⟩
        exact (found k v).mp hit
      · intro member
        exact ⟨e.1, inside e member, e.2, (found e.1 e.2).mpr member, rfl⟩
    · rw [List.pairwise_filterMap]
      refine (List.pairwise_lt_range' (s := lo) (n := n)).imp ?_
      intro a b below x hx y hy
      simp only [Option.map_eq_some_iff] at hx hy
      obtain ⟨-, -, rfl⟩ := hx
      obtain ⟨-, -, rfl⟩ := hy
      exact below
  rw [← keyed, List.map_filterMap]
  congr 1
  funext k
  cases lookup k <;> rfl

theorem toList_sorted_lines (lines : LineHits) : lines.toList.Pairwise fun a b => a.1 < b.1 := by
  have ordered := Std.TreeMap.ordered_keys (t := lines)
  rw [← Std.TreeMap.map_fst_toList_eq_keys, List.pairwise_map] at ordered
  exact ordered.imp fun lt => Nat.compare_eq_lt.mp lt

theorem filterMap_layout (info : SourceInfo) (lines : LineHits) (positive : ∀ l ∈ lines, 0 < l) :
    (layout info lines).filterMap id = lines.toList.map Prod.snd := by
  have shifted : (layout info lines).filterMap id =
      (List.range' 1 (max info.lineCount (highestLine lines))).filterMap fun l => lines[l]? := by
    simp only [layout, foldl_max_eq_highestLine, List.filterMap_map, List.range'_eq_map_range,
      Std.TreeMap.get?_eq_getElem?]
    congr 1
    funext i
    simp [Nat.add_comm]
  rw [shifted]
  apply filterMap_range'_eq _ _ _ _ (toList_sorted_lines lines)
  · intro e member
    have held : e.1 ∈ lines := Std.TreeMap.mem_iff_isSome_getElem?.mpr
      (by rw [Std.TreeMap.mem_toList_iff_getElem?_eq_some.mp member]; rfl)
    have := le_highestLine held
    exact ⟨positive e.1 held, by omega⟩
  · intro k v
    exact Std.TreeMap.mem_toList_iff_getElem?_eq_some.symm

theorem sum_map_getD_eq_sum_filterMap (cov : List (Option Nat)) :
    (cov.map (·.getD 0)).sum = (cov.filterMap id).sum := by
  induction cov with
  | nil => rfl
  | cons c rest ih => cases c <;> simp [ih]

/-- The stats of a laid-out file: its vector's lines, one relevant line per line held, the
lines with a positive total covered, and the totals summed and capped. -/
theorem Stats.ofCoverage_layout (info : SourceInfo) (lines : LineHits)
    (positive : ∀ l ∈ lines, 0 < l) :
    Stats.ofCoverage (layout info lines) =
      { totalLines := max info.lineCount (highestLine lines)
        relevantLines := lines.size
        coveredLines := lines.toList.countP (0 < ·.2)
        totalHits := min (lines.toList.map Prod.snd).sum countLimit } := by
  have entries := filterMap_layout info lines positive
  have relevant : (layout info lines).countP Option.isSome = lines.size :=
    calc (layout info lines).countP Option.isSome = ((layout info lines).filterMap id).length :=
          List.length_filterMap_eq_countP.symm
      _ = lines.size := by rw [entries, List.length_map, Std.TreeMap.length_toList]
  have covered : (layout info lines).countP (·.any (0 < ·)) = lines.toList.countP (0 < ·.2) :=
    calc (layout info lines).countP (·.any (0 < ·))
        = ((layout info lines).filterMap id).countP (0 < ·) := by
          rw [List.countP_filterMap]
          congr 1
          funext c
          cases c <;> simp
      _ = lines.toList.countP (0 < ·.2) := by rw [entries, List.countP_map]; rfl
  have hits : ((layout info lines).map (·.getD 0)).sum = (lines.toList.map Prod.snd).sum := by
    rw [sum_map_getD_eq_sum_filterMap, entries]
  rw [Stats.ofCoverage_eq, (layout_laidOut info lines).1, relevant, covered, hits]


/-! ## Summing the finished files -/

/-- The lines held for the files whose source the probe finds, each as its file, line and
total, in order of files and then of lines. -/
def foundLines (root : String) (probe : Probe) (files : Std.TreeMap String LineHits compare) :
    List (String × Nat × Nat) :=
  files.toList.flatMap fun e =>
    if (finishedFile root probe e).isSome then e.2.toList.map (e.1, ·) else []

theorem mem_foundLines {root : String} {probe : Probe} {files : Std.TreeMap String LineHits compare}
    {n : String} {l h : Nat} :
    (n, l, h) ∈ foundLines root probe files ↔
      (∃ info, probe (Path.join root n) = .ok (some info)) ∧ lineTotal files n l = some h := by
  simp only [foundLines, List.mem_flatMap]
  constructor
  · rintro ⟨e, listed, member⟩
    split at member
    · next found =>
      obtain ⟨⟨l', h'⟩, held, same⟩ := List.mem_map.mp member
      simp only [Prod.mk.injEq] at same
      obtain ⟨rfl, rfl, rfl⟩ := same
      refine ⟨(isSome_finishedFile root probe e).mp found, ?_⟩
      rw [lineTotal, Std.TreeMap.mem_toList_iff_getElem?_eq_some.mp listed, Option.bind_some]
      exact Std.TreeMap.mem_toList_iff_getElem?_eq_some.mp held
    · cases member
  · rintro ⟨found, total⟩
    obtain ⟨lines, lookup, held⟩ := Option.bind_eq_some_iff.mp total
    refine ⟨(n, lines), Std.TreeMap.mem_toList_iff_getElem?_eq_some.mpr lookup, ?_⟩
    rw [if_pos ((isSome_finishedFile root probe (n, lines)).mpr found)]
    exact List.mem_map.mpr ⟨(l, h), Std.TreeMap.mem_toList_iff_getElem?_eq_some.mpr held, rfl⟩

theorem nodup_foundLines (root : String) (probe : Probe)
    (files : Std.TreeMap String LineHits compare) :
    ((foundLines root probe files).map fun t => (t.1, t.2.1)).Nodup := by
  rw [foundLines, List.map_flatMap, List.nodup_flatMap]
  constructor
  · intro e _
    split
    · have keys : (e.2.toList.map (e.1, ·)).map (fun t => (t.1, t.2.1)) = e.2.keys.map (e.1, ·) := by
        rw [← Std.TreeMap.map_fst_toList_eq_keys, List.map_map, List.map_map]
        rfl
      rw [keys]
      exact Std.TreeMap.nodup_keys.map (Prod.mk_right_injective e.1)
    · exact List.nodup_nil
  · -- different files have blocks under different names
    refine (toList_sorted files).imp fun {a b} below => ?_
    intro x inA inB
    have named : ∀ e : String × LineHits, x ∈ (if (finishedFile root probe e).isSome then
        e.2.toList.map (e.1, ·) else []).map (fun t => (t.1, t.2.1)) → x.1 = e.1 := by
      intro e member
      split at member
      · obtain ⟨t, inner, rfl⟩ := List.mem_map.mp member
        obtain ⟨p, -, rfl⟩ := List.mem_map.mp inner
        rfl
      · cases member
    exact String.lt_irrefl _ ((named a inA) ▸ (named b inB) ▸ below)



theorem finishedFile_eq_layout {root : String} {probe : Probe} {e : String × LineHits}
    {f : SourceFile} (finished : finishedFile root probe e = some f) :
    ∃ info, f = ⟨e.1, info.digest, layout info e.2⟩ := by
  obtain ⟨info, -, rfl⟩ := (finishedFile_eq_some root probe e f).mp finished
  exact ⟨info, rfl⟩

theorem min_min_add (a b c cap : Nat) (capped : min b cap = min c cap) :
    min (min a cap + b) cap = min (a + c) cap := by
  omega

/-- Summing the stats of the finished files counts each found line once as relevant, once
more as covered when its total is positive, and sums the totals, capped once. -/
theorem sums_finished (root : String) (probe : Probe) (entries : List (String × LineHits))
    (positive : ∀ e ∈ entries, ∀ l ∈ e.2, 0 < l) :
    let stats := (entries.filterMap (finishedFile root probe)).map (Stats.ofCoverage ·.coverage)
    let found := entries.flatMap fun e =>
      if (finishedFile root probe e).isSome then e.2.toList.map (e.1, ·) else []
    (stats.map (·.relevantLines)).sum = found.length ∧
    (stats.map (·.coveredLines)).sum = found.countP (0 < ·.2.2) ∧
    min (stats.map (·.totalHits)).sum countLimit = min (found.map (·.2.2)).sum countLimit := by
  induction entries with
  | nil => simp
  | cons e rest ih =>
    obtain ⟨relevant, covered, hits⟩ :=
      ih fun e' member => positive e' (List.mem_cons_of_mem _ member)
    simp only [List.filterMap_cons, List.flatMap_cons]
    cases finished : finishedFile root probe e with
    | none =>
      simp only [Option.isSome_none, Bool.false_eq_true, if_false, List.nil_append]
      exact ⟨relevant, covered, hits⟩
    | some f =>
      obtain ⟨info, rfl⟩ := finishedFile_eq_layout finished
      have stats := Stats.ofCoverage_layout info e.2 (positive e (by simp))
      simp only [Option.isSome_some, if_true, List.map_cons, List.sum_cons, List.length_append,
        List.countP_append, List.map_append, List.sum_append] at relevant covered hits ⊢
      rw [stats, relevant, covered]
      refine ⟨by simp, by rw [List.countP_map]; rfl, ?_⟩
      have same : ((e.2.toList.map (e.1, ·)).map (·.2.2)).sum = (e.2.toList.map Prod.snd).sum := by
        rw [List.map_map]
        rfl
      rw [same]
      exact min_min_add _ _ _ _ hits


/-! ## Lines, files and records -/

theorem min_sum_map_min (xs : List Nat) (cap : Nat) :
    min (xs.map (min · cap)).sum cap = min xs.sum cap := by
  induction xs with
  | nil => rfl
  | cons x rest ih =>
    simp only [List.map_cons, List.sum_cons]
    exact min_min_add x _ _ cap ih

theorem sum_filter_eq_sum_ite {α : Type} (xs : List α) (keep : α → Bool) (f : α → Nat) :
    ((xs.filter keep).map f).sum = (xs.map fun x => if keep x then f x else 0).sum := by
  induction xs with
  | nil => rfl
  | cons x rest ih => cases kept : keep x <;> simp [kept, ih]

theorem sum_hitsOf_pairs (records : List (String × LineRecord)) (pairs : List (String × Nat))
    (distinct : pairs.Nodup) :
    (pairs.map fun p => (hitsOf records p.1 p.2).sum).sum =
      ((records.filter fun x => (x.1, x.2.line) ∈ pairs).map (·.2.hits)).sum := by
  induction pairs with
  | nil => simp
  | cons p rest ih =>
    obtain ⟨fresh, distinct⟩ := List.nodup_cons.mp distinct
    rw [List.map_cons, List.sum_cons, ih distinct, hitsOf, sum_filter_eq_sum_ite,
      sum_filter_eq_sum_ite, sum_filter_eq_sum_ite, ← List.sum_map_add]
    -- a record names at most one of the lines
    congr 1
    apply List.map_congr_left
    intro x _
    by_cases first : (x.1, x.2.line) = p
    · have : (x.1, x.2.line) ∉ rest := first ▸ fresh
      simp [← first, this]
    · have : ¬(x.1 = p.1 ∧ x.2.line = p.2) := fun both => first (Prod.ext both.1 both.2)
      simp [this, first]

theorem sum_hitsOf_pos (records : List (String × LineRecord)) (n : String) (l : Nat) :
    0 < (hitsOf records n l).sum ↔ ∃ x ∈ records, x.1 = n ∧ x.2.line = l ∧ 0 < x.2.hits := by
  rw [Nat.pos_iff_ne_zero, Ne, List.sum_eq_zero_iff_forall_eq_nat]
  simp only [hitsOf, List.mem_map, List.mem_filter, decide_eq_true_eq, forall_exists_index,
    and_imp]
  constructor
  · intro nonzero
    by_contra none
    apply nonzero
    rintro h x member named line rfl
    by_contra positive
    exact none ⟨x, member, named, line, Nat.pos_of_ne_zero positive⟩
  · rintro ⟨x, member, named, line, positive⟩ zero
    exact Nat.ne_of_gt positive (zero x.2.hits x member named line rfl)

/-! ## The lines a run counts -/

theorem isSome_lineTotal_run (root : String) (dirs : RelevantDirs) (ds : List Dump) (n : String)
    (l : Nat) :
    (lineTotal (ds.foldl Accumulator.add (.empty root dirs)).files n l).isSome ↔
      l ≠ 0 ∧ ∃ x ∈ admittedRecords root dirs ds, x.1 = n ∧ x.2.line = l := by
  rw [Accumulator.lineTotal_run, expectedTotal]
  split_ifs with held
  · exact iff_of_true rfl held
  · exact iff_of_false (by simp) held

theorem exists_lineTotal_iff {files : Std.TreeMap String LineHits compare} {n : String} {l : Nat} :
    (∃ h, lineTotal files n l = some h) ↔ ∃ lines, files[n]? = some lines ∧ l ∈ lines := by
  simp only [lineTotal, Option.bind_eq_some_iff, Std.TreeMap.mem_iff_isSome_getElem?,
    Option.isSome_iff_exists]
  constructor
  · rintro ⟨h, lines, lookup, held⟩
    exact ⟨lines, lookup, h, held⟩
  · rintro ⟨lines, lookup, h, held⟩
    exact ⟨h, lines, lookup, held⟩

theorem sup_eq_highestLine {A : Finset (String × Nat)} {n : String} {lines : LineHits}
    (held : ∀ l, (n, l) ∈ A ↔ l ∈ lines) :
    (A.filter (·.1 = n)).sup Prod.snd = highestLine lines := by
  apply le_antisymm
  · apply Finset.sup_le
    intro p member
    obtain ⟨inA, rfl⟩ := Finset.mem_filter.mp member
    exact le_highestLine ((held p.2).mp inA)
  · rw [highestLine]
    cases top : lines.maxKey? with
    | none => exact Nat.zero_le _
    | some m =>
      have present := (Std.TreeMap.maxKey?_eq_some_iff_mem_and_forall.mp top).1
      have member : (n, m) ∈ A.filter (·.1 = n) := Finset.mem_filter.mpr ⟨(held m).mpr present, rfl⟩
      exact Finset.le_sup (f := Prod.snd) member


theorem total_of_mem_foundLines {root : String} {dirs : RelevantDirs} {ds : List Dump}
    {probe : Probe} {t : String × Nat × Nat}
    (member : t ∈ foundLines root probe (ds.foldl Accumulator.add (.empty root dirs)).files) :
    t.2.2 = min (hitsOf (admittedRecords root dirs ds) t.1 t.2.1).sum countLimit := by
  have total := (mem_foundLines.mp member).2
  rw [Accumulator.lineTotal_run, expectedTotal] at total
  split_ifs at total
  exact (Option.some.inj total).symm

section Counted

/- `A` is the set of lines a run counts: the lines other than 0 that admitted records name,
of the files whose source the probe finds. -/
variable {root : String} {dirs : RelevantDirs} {ds : List Dump} {probe : Probe}
  {A : Finset (String × Nat)}
  (held : ∀ n l, (n, l) ∈ A ↔ l ≠ 0 ∧
    (∃ x ∈ admittedRecords root dirs ds, x.1 = n ∧ x.2.line = l) ∧
    ∃ info, probe (Path.join root n) = .ok (some info))
include held

theorem mem_counted_iff {n : String} {lines : LineHits}
    (lookup : (ds.foldl Accumulator.add (.empty root dirs)).files[n]? = some lines)
    (found : ∃ info, probe (Path.join root n) = .ok (some info)) (l : Nat) :
    (n, l) ∈ A ↔ l ∈ lines := by
  rw [held, ← and_assoc, ← isSome_lineTotal_run root dirs ds n l, Option.isSome_iff_exists,
    exists_lineTotal_iff]
  simp [lookup, found]

theorem counted_eq_foundLines :
    A = ((foundLines root probe (ds.foldl Accumulator.add (.empty root dirs)).files).map
      fun t => (t.1, t.2.1)).toFinset := by
  ext ⟨n, l⟩
  rw [held, List.mem_toFinset, List.mem_map]
  constructor
  · rintro ⟨nonzero, record, found⟩
    obtain ⟨h, total⟩ := Option.isSome_iff_exists.mp
      ((isSome_lineTotal_run root dirs ds n l).mpr ⟨nonzero, record⟩)
    exact ⟨(n, l, h), mem_foundLines.mpr ⟨found, total⟩, rfl⟩
  · rintro ⟨⟨n', l', h⟩, member, same⟩
    simp only [Prod.mk.injEq] at same
    obtain ⟨rfl, rfl⟩ := same
    obtain ⟨found, total⟩ := mem_foundLines.mp member
    have line := (isSome_lineTotal_run root dirs ds n' l').mp (by rw [total]; rfl)
    exact ⟨line.1, line.2, found⟩

theorem image_counted :
    A.image Prod.fst = (((ds.foldl Accumulator.add (.empty root dirs)).files.toList.filterMap
      (finishedFile root probe)).map (·.name)).toFinset := by
  ext n
  simp only [Finset.mem_image, List.mem_toFinset, List.mem_map]
  rw [exists_finished_iff]
  constructor
  · rintro ⟨⟨n, l⟩, member, rfl⟩
    obtain ⟨nonzero, ⟨x, admitted, named, line⟩, found⟩ := (held n l).mp member
    exact ⟨(Accumulator.mem_run root dirs ds n).mpr ⟨x, admitted, named, line ▸ nonzero⟩, found⟩
  · rintro ⟨member, found⟩
    obtain ⟨lines, lookup⟩ := Option.isSome_iff_exists.mp
      (Std.TreeMap.mem_iff_isSome_getElem?.mp member)
    obtain ⟨l, line⟩ := (Accumulator.held_run root dirs ds lookup).1
    exact ⟨(n, l), (mem_counted_iff held lookup found l).mpr line, rfl⟩

end Counted

def probedLineCount (root : String) (probe : Probe) (name : String) : Nat :=
  match probe (Path.join root name) with
  | .ok (some info) => info.lineCount
  | _ => 0

theorem coverage_length_finished {root : String} {probe : Probe}
    {files : Std.TreeMap String LineHits compare} {f : SourceFile} {A : Finset (String × Nat)}
    (member : f ∈ files.toList.filterMap (finishedFile root probe))
    (held : ∀ l lines, files[f.name]? = some lines → ((f.name, l) ∈ A ↔ l ∈ lines)) :
    f.coverage.length =
      max (probedLineCount root probe f.name) ((A.filter (·.1 = f.name)).sup Prod.snd) := by
  obtain ⟨lines, info, lookup, found, same⟩ := mem_finished member
  have count : probedLineCount root probe f.name = info.lineCount := by
    simp [probedLineCount, found]
  rw [count, sup_eq_highestLine fun l => held l lines lookup, same]
  exact (layout_laidOut info lines).1


/-! ## End to end -/

/-- End to end, a line counts once however many records name it, a line whose records never
hit it is relevant but not covered, and a line without records is no line at all. For the
files an aggregation gives, let `A` be the lines other than 0 that an admitted record names,
of the files whose source is found. The stats of the files sum to one relevant line per line
of `A`, one covered line per line of `A` that some record hits, the hits of all records of
lines of `A` capped once, and, per file of `A`, the longer of its source and its highest line;
and a rollup of a snapshot of these files totals exactly this sum. -/
theorem aggregate_counts_lines (root : String) (dirs : RelevantDirs) (ds : List Dump)
    (probe : Probe) (fs : List SourceFile) (done : aggregate root dirs ds probe = .ok fs)
    (A : Finset (String × Nat))
    (held : ∀ n l, (n, l) ∈ A ↔ l ≠ 0 ∧
      (∃ x ∈ admittedRecords root dirs ds, x.1 = n ∧ x.2.line = l) ∧
      ∃ info, probe (Path.join root n) = .ok (some info)) :
    let records := admittedRecords root dirs ds
    let s := Stats.sum (fs.map (Stats.ofCoverage ·.coverage))
    s.relevantLines = A.card ∧
    s.coveredLines =
      (A.filter fun p => ∃ x ∈ records, x.1 = p.1 ∧ x.2.line = p.2 ∧ 0 < x.2.hits).card ∧
    s.totalHits =
      min ((records.filter fun x => (x.1, x.2.line) ∈ A).map (·.2.hits)).sum countLimit ∧
    s.totalLines = ∑ n ∈ A.image Prod.fst,
      max (probedLineCount root probe n) ((A.filter (·.1 = n)).sup Prod.snd) ∧
    ∀ (c : Snapshot) (p : Option Snapshot), c.sourceFiles = fs → (Rollup.build c p).total = s := by
  intro records s
  let files := (ds.foldl Accumulator.add (.empty root dirs)).files
  have finishes : aggregate root dirs ds probe = finishFiles root probe files.toList := by
    simp [files, aggregate, Accumulator.finish, Accumulator.empty]
  obtain ⟨-, rfl⟩ := (finishFiles_eq_ok root probe _ fs).mp (finishes ▸ done)
  have positive : ∀ e ∈ files.toList, ∀ l ∈ e.2, 0 < l := by
    intro e listed l member
    obtain ⟨h, total⟩ := Option.isSome_iff_exists.mp (Std.TreeMap.mem_iff_isSome_getElem?.mp member)
    exact ((Accumulator.held_run root dirs ds
      (Std.TreeMap.mem_toList_iff_getElem?_eq_some.mp listed)).2 l h total).1
  -- the files' stats are sums over `foundLines`, which holds each line of `A` once
  let found := foundLines root probe files
  let stats := (files.toList.filterMap (finishedFile root probe)).map (Stats.ofCoverage ·.coverage)
  obtain ⟨relevant, covered, hits⟩ : (stats.map (·.relevantLines)).sum = found.length ∧
      (stats.map (·.coveredLines)).sum = found.countP (0 < ·.2.2) ∧
      min (stats.map (·.totalHits)).sum countLimit = min (found.map (·.2.2)).sum countLimit :=
    sums_finished root probe files.toList positive
  have closed : s = _ := Stats.sum_eq stats
  have keyed : A = (found.map fun t => (t.1, t.2.1)).toFinset := counted_eq_foundLines held
  have distinct : (found.map fun t => (t.1, t.2.1)).Nodup := nodup_foundLines root probe files
  have names : ((files.toList.filterMap (finishedFile root probe)).map (·.name)).Nodup := by
    apply List.pairwise_map.mpr
    refine (finished_sorted root probe files).imp ?_
    intro a b lt same
    rw [same] at lt
    exact String.lt_irrefl _ lt
  refine ⟨?relevant, ?covered, ?hits, ?lines, ?total⟩
  case relevant =>
    rw [closed, keyed, List.toFinset_card_of_nodup distinct, List.length_map, ← relevant]
  case covered =>
    rw [closed, covered, keyed, List.filter_toFinset, List.toFinset_card_of_nodup (distinct.filter _),
      ← List.countP_eq_length_filter, List.countP_map]
    apply List.countP_congr
    intro t member
    simp only [Function.comp_apply, decide_eq_true_eq, total_of_mem_foundLines member]
    -- a total is positive exactly when the uncapped sum is, since the cap is positive
    rw [← sum_hitsOf_pos, Nat.lt_min]
    exact ⟨fun positive => positive.1, fun positive => ⟨positive, by decide⟩⟩
  case hits =>
    have totals : found.map (·.2.2) = ((found.map fun t => (t.1, t.2.1)).map
        fun p => (hitsOf records p.1 p.2).sum).map (min · countLimit) := by
      rw [List.map_map, List.map_map]
      exact List.map_congr_left fun t member => total_of_mem_foundLines member
    have capped : s.totalHits = min (found.map (·.2.2)).sum countLimit := by
      rw [closed, ← hits]
    rw [capped, totals, min_sum_map_min, sum_hitsOf_pairs records _ distinct]
    congr 3
    apply List.filter_congr
    intro x _
    simp only [keyed, List.mem_toFinset]
  case lines =>
    rw [closed, image_counted held, List.sum_toFinset _ names, List.map_map]
    simp only [List.map_map]
    congr 1
    apply List.map_congr_left
    intro f member
    obtain ⟨lines, info, lookup, found, -⟩ := mem_finished member
    simp only [Function.comp_apply, Stats.ofCoverage_totalLines]
    exact coverage_length_finished member fun l lines' lookup' =>
      mem_counted_iff held lookup' ⟨info, found⟩ l
  case total =>
    intro c p named
    rw [Rollup.build_total_of_distinct c p (named ▸ names), named]

/-- Two dumps name line 3 twice and line 1 once without hits: line 3 counts once, and line 1
is relevant but not covered. -/
theorem aggregate_counts_repeated_line :
    let dirs := RelevantDirs.parse "src"
    let ds : List Dump := [(∅ : Dump).insert "/w/src/a.c" { lines := [⟨1, 0, false⟩, ⟨3, 2, false⟩] },
      (∅ : Dump).insert "/w/src/a.c" { lines := [⟨3, 4, false⟩] }]
    let probe : Probe := fun _ => .ok (some ⟨"d", 2⟩)
    let fs : List SourceFile := [⟨"src/a.c", "d", [some 0, none, some 6]⟩]
    let A : Finset (String × Nat) := {("src/a.c", 1), ("src/a.c", 3)}
    let s := Stats.sum (fs.map (Stats.ofCoverage ·.coverage))
    aggregate "/w" dirs ds probe = .ok fs ∧
      (∀ n l, (n, l) ∈ A ↔ l ≠ 0 ∧
        (∃ x ∈ admittedRecords "/w" dirs ds, x.1 = n ∧ x.2.line = l) ∧
        ∃ info, probe (Path.join "/w" n) = .ok (some info)) ∧
      s.relevantLines = A.card ∧
      s.coveredLines = (A.filter fun p => ∃ x ∈ admittedRecords "/w" dirs ds,
        x.1 = p.1 ∧ x.2.line = p.2 ∧ 0 < x.2.hits).card := by
  intro dirs ds probe fs A s
  have computed : (aggregate "/w" dirs ds probe).toOption = some fs := by decide +kernel
  have done : aggregate "/w" dirs ds probe = .ok fs := by
    revert computed
    cases aggregate "/w" dirs ds probe <;> simp [Except.toOption]
  have records : admittedRecords "/w" dirs ds =
      [("src/a.c", ⟨1, 0, false⟩), ("src/a.c", ⟨3, 2, false⟩), ("src/a.c", ⟨3, 4, false⟩)] := by
    decide +kernel
  have held : ∀ n l, (n, l) ∈ A ↔ l ≠ 0 ∧
      (∃ x ∈ admittedRecords "/w" dirs ds, x.1 = n ∧ x.2.line = l) ∧
      ∃ info, probe (Path.join "/w" n) = .ok (some info) := by
    intro n l
    simp only [records, A, probe, Finset.mem_insert, Finset.mem_singleton, Prod.mk.injEq,
      List.mem_cons, List.not_mem_nil, or_false, exists_eq_or_imp, exists_eq_left]
    constructor
    · rintro (⟨rfl, rfl⟩ | ⟨rfl, rfl⟩) <;> simp
    · rintro ⟨-, (⟨rfl, rfl⟩ | ⟨rfl, rfl⟩ | ⟨rfl, rfl⟩), -⟩ <;> simp
  have counts := aggregate_counts_lines "/w" dirs ds probe fs done A held
  exact ⟨done, held, counts.1, counts.2.1⟩

end LineCoverage
