import LineCoverage.Proofs.Coverage.Finish
import LineCoverage.Proofs.Path.Components

/-!
# Aggregating a finished run again

A finished run gives each found file a coverage vector. Written back as one dump, with a line
record for every entry of the vector that holds a total, under the file's path below the root,
and aggregated again with the same root, directories and probe, it gives the same files.

The argument goes through the totals: each name of a finished file reads back, below the
root, as itself and in a relevant directory (`ReadsBack`), so the one dump hands each file
exactly the records of its own vector, and one record a line reproduces the capped total.
The second run then holds the found files of the first with the same totals
(`lineTotal_reaggregated`), and finishing is blind to everything else.
-/

set_option autoImplicit false

namespace LineCoverage
/-! ## Coverage as line records -/

/-- The line records that give a coverage back: one for each entry that holds a total, numbered
from one, with no unexecuted block. -/
def coverageRecords (coverage : List (Option Nat)) : List LineRecord :=
  coverage.zipIdx.filterMap fun entry => entry.1.map fun hits => ⟨entry.2 + 1, hits, false⟩

theorem hits_zipIdx_line (coverage : List (Option Nat)) (k l : Nat) :
    (((coverage.zipIdx k).filterMap fun entry =>
        entry.1.map fun hits => (⟨entry.2 + 1, hits, false⟩ : LineRecord)).filter
          (fun r => r.line = l)).map (·.hits) =
      if k < l then (coverage[l - 1 - k]?).join.toList else [] := by
  induction coverage generalizing k with
  | nil => split <;> simp
  | cons c rest ih =>
    rw [List.zipIdx_cons, List.filterMap_cons]
    -- the head is line `k + 1`: before line `l`, line `l` itself, or after it
    rcases Nat.lt_trichotomy (k + 1) l with before | rfl | after
    · have index : l - 1 - k = l - 1 - (k + 1) + 1 := by omega
      cases c <;> simp [ih, before, index, Nat.lt_of_succ_lt before, Nat.ne_of_lt before]
    · cases c <;> simp [ih]
    · have outside : ¬k < l := by omega
      have later : ¬k + 1 < l := by omega
      have apart : k + 1 ≠ l := by omega
      cases c <;> simp [ih, outside, later, apart]

theorem hits_coverageRecords (coverage : List (Option Nat)) (l : Nat) :
    (((coverageRecords coverage).filter fun r => r.line = l).map (·.hits)) =
      if 0 < l then (coverage[l - 1]?).join.toList else [] := by
  rw [coverageRecords]
  simpa using hits_zipIdx_line coverage 0 l

/-! ## Entries under one key -/

section
variable {α β : Type} {cmp : α → α → Ordering} [Std.TransCmp cmp] [Std.LawfulEqCmp cmp]
  [DecidableEq α]

theorem toList_filter_key (t : Std.TreeMap α β cmp) (k : α) :
    t.toList.filter (fun entry => entry.1 = k) = (t[k]?.map (k, ·)).toList := by
  have distinct : t.toList.Nodup :=
    Std.TreeMap.distinct_keys_toList.imp fun apart same =>
      apart (by rw [same]; exact Std.ReflCmp.compare_self)
  have same : ∀ entry, entry ∈ t.toList.filter (fun entry => entry.1 = k) ↔
      entry ∈ (t[k]?.map (k, ·)).toList := by
    rintro ⟨key, value⟩
    simp only [List.mem_filter, Std.TreeMap.mem_toList_iff_getElem?_eq_some, decide_eq_true_eq]
    constructor
    · rintro ⟨found, rfl⟩
      simp [found]
    · intro member
      cases lookup : t[k]? with
      | none => simp [lookup] at member
      | some held =>
        simp only [lookup, Option.map_some, Option.toList_some, List.mem_singleton,
          Prod.mk.injEq] at member
        obtain ⟨rfl, rfl⟩ := member
        exact ⟨lookup, rfl⟩
  have perm := (List.perm_ext_iff_of_nodup (distinct.filter _) (by cases t[k]? <;> simp)).mpr same
  cases lookup : t[k]? with
  | none => simpa [lookup] using perm
  | some held => simpa [lookup] using perm

theorem flatMap_toList_key {γ : Type} (t : Std.TreeMap α β cmp) (k : α) (g : β → List γ) :
    t.toList.flatMap (fun entry => if entry.1 = k then g entry.2 else []) =
      (t[k]?.map g).getD [] := by
  have only : t.toList.flatMap (fun entry => if entry.1 = k then g entry.2 else []) =
      (t.toList.filter fun entry => entry.1 = k).flatMap (g ·.2) := by
    induction t.toList with
    | nil => rfl
    | cons entry rest ih =>
      by_cases here : entry.1 = k <;> simp [here, ih]
  rw [only, toList_filter_key]
  cases t[k]? <;> simp

end

/-! ## Reading a coverage dump back -/

theorem hitsOf_flatMap {δ : Type} (xs : List δ) (g : δ → List (String × LineRecord)) (n : String)
    (l : Nat) : hitsOf (xs.flatMap g) n l = xs.flatMap fun x => hitsOf (g x) n l := by
  simp [hitsOf, List.filter_flatMap, List.map_flatMap]

theorem hitsOf_map_name (records : List LineRecord) (m n : String) (l : Nat) :
    hitsOf (records.map (m, ·)) n l =
      if m = n then (records.filter fun r => r.line = l).map (·.hits) else [] := by
  by_cases same : m = n <;> simp [hitsOf, same, List.filter_map, Function.comp_def]

def coverageDump (root : String) (fs : List SourceFile) : Dump :=
  Std.TreeMap.ofList
    (fs.map fun f => (Path.join root f.name, { lines := coverageRecords f.coverage })) compare

section
variable {root : String} {dirs : RelevantDirs} {fs : List SourceFile}

/-- What the files' names must do for their coverage to be read back: they come in
increasing order, and each, joined to the root, lies below it under itself, in a relevant
directory. -/
structure ReadsBack (root : String) (dirs : RelevantDirs) (fs : List SourceFile) : Prop where
  sorted : fs.Pairwise fun a b => a.name < b.name
  named : ∀ f ∈ fs, Path.relativeToRoot root (Path.join root f.name) = some f.name
  kept : ∀ f ∈ fs, dirs.matches f.name = true

theorem ReadsBack.join_inj (back : ReadsBack root dirs fs) {f g : SourceFile} (first : f ∈ fs)
    (second : g ∈ fs) (same : Path.join root f.name = Path.join root g.name) : f.name = g.name := by
  have := back.named f first
  rw [same, back.named g second] at this
  exact (Option.some.inj this).symm

theorem ReadsBack.distinct (back : ReadsBack root dirs fs) :
    (fs.map fun f =>
        (Path.join root f.name, ({ lines := coverageRecords f.coverage } : FileRecords))).Pairwise
      fun a b => ¬compare a.1 b.1 = .eq := by
  rw [List.pairwise_map]
  refine back.sorted.imp_of_mem fun first second smaller same => ?_
  have := back.join_inj first second (Std.LawfulEqCmp.compare_eq_iff_eq.mp same)
  exact String.lt_irrefl _ (this ▸ smaller)

theorem ReadsBack.lookup (back : ReadsBack root dirs fs) {f : SourceFile} (member : f ∈ fs) :
    (coverageDump root fs)[Path.join root f.name]? = some { lines := coverageRecords f.coverage } :=
  Std.TreeMap.getElem?_ofList_of_mem Std.ReflCmp.compare_self back.distinct
    (List.mem_map_of_mem member)

theorem ReadsBack.mem_toList (back : ReadsBack root dirs fs)
    {entry : String × FileRecords} (member : entry ∈ (coverageDump root fs).toList) :
    ∃ f ∈ fs, entry = (Path.join root f.name, { lines := coverageRecords f.coverage }) := by
  have found := Std.TreeMap.mem_toList_iff_getElem?_eq_some.mp member
  have held : entry.1 ∈ coverageDump root fs :=
    Std.TreeMap.mem_iff_isSome_getElem?.mpr (by simp [found])
  rw [coverageDump, Std.TreeMap.mem_ofList] at held
  obtain ⟨f, listed, spelled⟩ : ∃ f ∈ fs, Path.join root f.name = entry.1 := by simpa using held
  refine ⟨f, listed, ?_⟩
  rw [← spelled, back.lookup listed] at found
  rw [Option.some.inj found, spelled]

theorem ReadsBack.hitsOf_name (back : ReadsBack root dirs fs) {f : SourceFile} (member : f ∈ fs)
    (l : Nat) :
    hitsOf (admittedIn root dirs (coverageDump root fs)) f.name l =
      ((coverageRecords f.coverage).filter fun r => r.line = l).map (·.hits) := by
  calc hitsOf (admittedIn root dirs (coverageDump root fs)) f.name l
      = (coverageDump root fs).toList.flatMap (fun entry =>
          if entry.1 = Path.join root f.name then
            (entry.2.lines.filter fun r => r.line = l).map (·.hits)
          else []) := by
        rw [admittedIn, hitsOf_flatMap]
        apply List.flatMap_congr
        intro entry listed
        obtain ⟨g, owned, rfl⟩ := back.mem_toList listed
        simp only [back.named g owned, back.kept g owned, if_true, hitsOf_map_name]
        by_cases same : g.name = f.name
        · simp [same]
        · have apart : Path.join root g.name ≠ Path.join root f.name :=
            fun joined => same (back.join_inj owned member joined)
          simp [same, apart]
    _ = ((coverageRecords f.coverage).filter fun r => r.line = l).map (·.hits) := by
        rw [flatMap_toList_key (coverageDump root fs) (Path.join root f.name)
            fun records => (records.lines.filter fun r => r.line = l).map (·.hits),
          back.lookup member]
        rfl

theorem ReadsBack.hitsOf_other (back : ReadsBack root dirs fs) {n : String}
    (absent : ∀ f ∈ fs, f.name ≠ n) (l : Nat) :
    hitsOf (admittedIn root dirs (coverageDump root fs)) n l = [] := by
  rw [admittedIn, hitsOf_flatMap, List.flatMap_eq_nil_iff]
  intro entry listed
  obtain ⟨g, owned, rfl⟩ := back.mem_toList listed
  simp [back.named g owned, back.kept g owned, hitsOf_map_name, absent g owned]

end

/-! ## Totals of a finished run, added again -/

theorem expectedTotal_eq (records : List (String × LineRecord)) (n : String) (l : Nat) :
    expectedTotal records n l =
      if l ≠ 0 ∧ hitsOf records n l ≠ [] then some (min (hitsOf records n l).sum countLimit)
      else none := by
  simp only [expectedTotal, ne_eq, hitsOf_eq_nil, not_not]

theorem LaidOut.join_getElem? {info : SourceInfo} {lines : LineHits} {coverage : List (Option Nat)}
    (laid : LaidOut info lines coverage) {l : Nat} (positive : 0 < l) :
    (coverage[l - 1]?).join = lines[l]? := by
  by_cases inside : l - 1 < coverage.length
  · rw [List.getElem?_eq_getElem inside, laid.2 _ inside, Nat.sub_add_cancel positive]
    rfl
  · rw [List.getElem?_eq_none (by omega)]
    cases held : lines[l]? with
    | none => rfl
    | some h =>
      have member : l ∈ lines := Std.TreeMap.mem_iff_isSome_getElem?.mpr (by simp [held])
      have := le_highestLine member
      have := laid.1
      omega

theorem mem_of_lineTotal {files : Std.TreeMap String LineHits compare} {n : String} {l h : Nat}
    (found : lineTotal files n l = some h) : n ∈ files := by
  cases lookup : files[n]? with
  | none => simp [lineTotal, lookup] at found
  | some lines => exact Std.TreeMap.mem_iff_isSome_getElem?.mpr (by simp [lookup])

theorem Accumulator.named_run (root : String) (dirs : RelevantDirs) (ds : List Dump) {n : String}
    (held : n ∈ (ds.foldl Accumulator.add (.empty root dirs)).files) :
    Path.relativeToRoot root (Path.join root n) = some n ∧ dirs.matches n = true := by
  obtain ⟨x, admitted, rfl, -⟩ := (Accumulator.mem_run root dirs ds n).mp held
  obtain ⟨d, -, entry, -, below, kept, -⟩ := mem_admittedRecords.mp admitted
  exact ⟨Path.relativeToRoot_join below, kept⟩

theorem readsBack_finished (root : String) (dirs : RelevantDirs) (ds : List Dump) (probe : Probe) :
    ReadsBack root dirs ((ds.foldl Accumulator.add (.empty root dirs)).files.toList.filterMap
      (finishedFile root probe)) := by
  have named : ∀ f ∈ (ds.foldl Accumulator.add (.empty root dirs)).files.toList.filterMap
      (finishedFile root probe), Path.relativeToRoot root (Path.join root f.name) = some f.name ∧
        dirs.matches f.name = true := by
    intro f member
    obtain ⟨lines, -, lookup, -, -⟩ := mem_finished member
    exact Accumulator.named_run root dirs ds
      (Std.TreeMap.mem_iff_isSome_getElem?.mpr (by simp [lookup]))
  exact ⟨finished_sorted root probe _, fun f member => (named f member).1,
    fun f member => (named f member).2⟩

def foundFiles (root : String) (probe : Probe) (files : Std.TreeMap String LineHits compare) :
    Std.TreeMap String LineHits compare :=
  files.filter fun n lines => (finishedFile root probe (n, lines)).isSome

theorem isSome_finishedFile (root : String) (probe : Probe) (entry : String × LineHits) :
    (finishedFile root probe entry).isSome ↔
      ∃ info, probe (Path.join root entry.1) = .ok (some info) := by
  rw [Option.isSome_iff_exists]
  simp only [finishedFile_eq_some]
  constructor
  · rintro ⟨f, info, found, -⟩
    exact ⟨info, found⟩
  · rintro ⟨info, found⟩
    exact ⟨_, info, found, rfl⟩

theorem getElem?_foundFiles_of_found {root : String} {probe : Probe}
    {files : Std.TreeMap String LineHits compare} {n : String}
    (found : ∃ info, probe (Path.join root n) = .ok (some info)) :
    (foundFiles root probe files)[n]? = files[n]? := by
  have keep : ∀ lines : LineHits, (finishedFile root probe (n, lines)).isSome = true :=
    fun lines => (isSome_finishedFile root probe (n, lines)).mpr found
  rw [foundFiles, Std.TreeMap.getElem?_filter']
  cases files[n]? with
  | none => rfl
  | some lines => exact Option.filter_some_pos (keep lines)

theorem getElem?_foundFiles_of_lost {root : String} {probe : Probe}
    {files : Std.TreeMap String LineHits compare} {n : String}
    (lost : ¬∃ info, probe (Path.join root n) = .ok (some info)) :
    (foundFiles root probe files)[n]? = none := by
  have drop : ∀ lines : LineHits, (finishedFile root probe (n, lines)).isSome = false := by
    intro lines
    rw [Bool.eq_false_iff]
    exact fun some => lost ((isSome_finishedFile root probe (n, lines)).mp some)
  rw [foundFiles, Std.TreeMap.getElem?_filter']
  cases files[n]? with
  | none => rfl
  | some lines => exact Option.filter_some_neg (drop lines)

theorem lineTotal_reaggregated (root : String) (dirs : RelevantDirs) (ds : List Dump)
    (probe : Probe) (n : String) (l : Nat) :
    let acc := ds.foldl Accumulator.add (.empty root dirs)
    let fs := acc.files.toList.filterMap (finishedFile root probe)
    lineTotal ([coverageDump root fs].foldl Accumulator.add (.empty root dirs)).files n l =
      lineTotal (foundFiles root probe acc.files) n l := by
  intro acc fs
  have back : ReadsBack root dirs fs := readsBack_finished root dirs ds probe
  have single : admittedRecords root dirs [coverageDump root fs] =
      admittedIn root dirs (coverageDump root fs) := by
    simp [admittedRecords]
  rw [Accumulator.lineTotal_run, expectedTotal_eq, single, lineTotal]
  by_cases named : ∃ f ∈ fs, f.name = n
  · obtain ⟨f, member, rfl⟩ := named
    obtain ⟨lines, info, lookup, found, same⟩ := mem_finished member
    have laid : LaidOut info lines f.coverage := by
      rw [same]
      exact layout_laidOut info lines
    have held := Accumulator.held_run root dirs ds lookup
    rw [back.hitsOf_name member, hits_coverageRecords, getElem?_foundFiles_of_found ⟨info, found⟩,
      lookup, Option.bind_some]
    by_cases zero : l = 0
    · subst zero
      cases total : lines[0]? with
      | none => simp
      | some h => exact absurd (held.2 0 h total).1 (Nat.lt_irrefl 0)
    · rw [laid.join_getElem? (Nat.pos_of_ne_zero zero)]
      cases total : lines[l]? with
      | none => simp
      | some h =>
        have bound := (held.2 l h total).2.1
        simp [zero, Nat.pos_of_ne_zero zero, Nat.min_eq_left bound]
  · have absent : ∀ f ∈ fs, f.name ≠ n := fun f member same => named ⟨f, member, same⟩
    rw [back.hitsOf_other absent]
    by_cases found : ∃ info, probe (Path.join root n) = .ok (some info)
    · have missing : acc.files[n]? = none := Std.TreeMap.getElem?_eq_none fun held =>
        named ((exists_finished_iff root probe acc.files n).mpr ⟨held, found⟩)
      simp [getElem?_foundFiles_of_found found, missing]
    · simp [getElem?_foundFiles_of_lost found]

theorem mem_iff_lineTotal {files : Std.TreeMap String LineHits compare}
    (nonempty : ∀ (n : String) (lines : LineHits), files[n]? = some lines → ∃ l, l ∈ lines)
    (n : String) :
    n ∈ files ↔ ∃ l h, lineTotal files n l = some h := by
  constructor
  · intro held
    obtain ⟨lines, lookup⟩ :=
      Option.isSome_iff_exists.mp (Std.TreeMap.mem_iff_isSome_getElem?.mp held)
    obtain ⟨l, line⟩ := nonempty n lines lookup
    obtain ⟨h, total⟩ := Option.isSome_iff_exists.mp (Std.TreeMap.mem_iff_isSome_getElem?.mp line)
    exact ⟨l, h, by simp [lineTotal, lookup, total]⟩
  · rintro ⟨l, h, total⟩
    exact mem_of_lineTotal total

/-- Aggregating the coverage of a finished run again, as one dump, gives the same files. -/
theorem reaggregate_coverage (root : String) (dirs : RelevantDirs) (ds : List Dump) (probe : Probe)
    (fs : List SourceFile) (done : aggregate root dirs ds probe = .ok fs) :
    aggregate root dirs [coverageDump root fs] probe = .ok fs := by
  let acc := ds.foldl Accumulator.add (.empty root dirs)
  have finished : finishFiles root probe acc.files.toList = .ok fs := by
    rw [← done, aggregate, Accumulator.finish, Accumulator.foldl_add_root]
    rfl
  obtain ⟨allFound, rfl⟩ := (finishFiles_eq_ok root probe acc.files.toList fs).mp finished
  let again := [coverageDump root (acc.files.toList.filterMap (finishedFile root probe))].foldl
    Accumulator.add (.empty root dirs)
  have totals : ∀ n l,
      lineTotal again.files n l = lineTotal (foundFiles root probe acc.files) n l :=
    lineTotal_reaggregated root dirs ds probe
  -- both sides hold only files with a line, so the totals decide which files they hold
  have nonempty : ∀ (n : String) (lines : LineHits),
      (foundFiles root probe acc.files)[n]? = some lines →
      ∃ l, l ∈ lines := by
    intro n lines lookup
    by_cases found : ∃ info, probe (Path.join root n) = .ok (some info)
    · rw [getElem?_foundFiles_of_found found] at lookup
      exact (Accumulator.held_run root dirs ds lookup).1
    · simp [getElem?_foundFiles_of_lost found] at lookup
  have members : ∀ n, n ∈ again.files ↔ n ∈ foundFiles root probe acc.files := by
    intro n
    rw [@mem_iff_lineTotal again.files
        fun n lines lookup => (Accumulator.held_run root dirs _ lookup).1,
      mem_iff_lineTotal nonempty]
    simp only [totals]
  have same := toList_contents_eq members (totals · ·)
  have rooted : again.root = root := Accumulator.foldl_add_root ..
  show finishFiles again.root probe again.files.toList = _
  rw [rooted, finishFiles_congr root probe same, finishFiles_eq_ok, foundFiles,
    Std.TreeMap.toList_filter, List.filterMap_filter]
  refine ⟨fun y listed => allFound y (List.mem_of_mem_filter listed), ?_⟩
  congr 1
  funext entry
  cases finishedFile root probe entry <;> rfl

theorem reaggregate_coverage_of_one_dump :
    let dirs := RelevantDirs.parse "src"
    let ds : List Dump := [(∅ : Dump).insert "/w/src/a.c" { lines := [⟨2, 5, false⟩] }]
    let probe : Probe := fun _ => .ok (some ⟨"d", 1⟩)
    let fs : List SourceFile := [⟨"src/a.c", "d", [none, some 5]⟩]
    aggregate "/w" dirs ds probe = .ok fs ∧
      aggregate "/w" dirs [coverageDump "/w" fs] probe = .ok fs := by
  intro dirs ds probe fs
  have computed : (aggregate "/w" dirs ds probe).toOption = some fs := by decide +kernel
  have done : aggregate "/w" dirs ds probe = .ok fs := by
    revert computed
    cases aggregate "/w" dirs ds probe <;> simp [Except.toOption]
  exact ⟨done, reaggregate_coverage "/w" dirs ds probe fs done⟩

end LineCoverage
