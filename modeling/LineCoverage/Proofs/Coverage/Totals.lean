import LineCoverage.Coverage.Accumulator
import Mathlib
/-! Totals of the accumulator.

Adding a dump adds, one by one, the line records it holds under a path below the root whose
name lies in a relevant directory. So after any sequence of dumps the accumulator holds, for
each such name and each non-zero line, the hits of every admitted record of that line summed
and stopped at `countLimit`, and nothing else. The order of the records plays no part: dumps
that admit the same records in another order, or grouped otherwise, leave the same contents
and finish alike.
-/

set_option autoImplicit false

namespace LineCoverage

def lineTotal (files : Std.TreeMap String LineHits compare) (n : String) (l : Nat) : Option Nat :=
  files[n]?.bind fun lines => lines[l]?

def addRecord (files : Std.TreeMap String LineHits compare) (x : String × LineRecord) :
    Std.TreeMap String LineHits compare :=
  addLine x.1 files x.2

theorem lineTotal_addLine (files : Std.TreeMap String LineHits compare) (name : String)
    (r : LineRecord) (n : String) (l : Nat) :
    lineTotal (addLine name files r) n l =
      if r.line ≠ 0 ∧ name = n ∧ r.line = l then some (addHits ((lineTotal files n l).getD 0) r.hits)
      else lineTotal files n l := by
  unfold addLine lineTotal
  by_cases zero : r.line = 0
  · simp [zero]
  by_cases same : name = n
  · subst same
    by_cases line : r.line = l
    · subst line
      simp [zero, Std.TreeMap.getD_eq_getD_getElem?]
      cases files[name]? <;> simp
    · simp [zero, line, Std.TreeMap.getElem?_insert, Std.TreeMap.getD_eq_getD_getElem?]
      cases files[name]? <;> simp
  · simp [zero, same, Std.TreeMap.getElem?_insert]

theorem mem_addLine (files : Std.TreeMap String LineHits compare) (name : String)
    (r : LineRecord) (n : String) :
    n ∈ addLine name files r ↔ n ∈ files ∨ (r.line ≠ 0 ∧ name = n) := by
  unfold addLine
  by_cases zero : r.line = 0
  · simp [zero]
  · simp [zero, Std.TreeMap.mem_insert]
    tauto


def hitsOf (records : List (String × LineRecord)) (n : String) (l : Nat) : List Nat :=
  (records.filter fun x => x.1 = n ∧ x.2.line = l).map (·.2.hits)

theorem hitsOf_cons (x : String × LineRecord) (rest : List (String × LineRecord)) (n : String)
    (l : Nat) :
    hitsOf (x :: rest) n l = if x.1 = n ∧ x.2.line = l then x.2.hits :: hitsOf rest n l
      else hitsOf rest n l := by
  by_cases h : x.1 = n ∧ x.2.line = l <;> simp [hitsOf, h]

theorem lineTotal_foldl_addRecord (xs : List (String × LineRecord))
    (files : Std.TreeMap String LineHits compare) (n : String) (l : Nat) :
    lineTotal (xs.foldl addRecord files) n l =
      if l = 0 ∨ hitsOf xs n l = [] then lineTotal files n l
      else some (min ((lineTotal files n l).getD 0 + (hitsOf xs n l).sum) countLimit) := by
  induction xs generalizing files with
  | nil => simp [hitsOf]
  | cons x rest ih =>
    rw [List.foldl_cons, ih, addRecord, lineTotal_addLine, hitsOf_cons]
    by_cases zero : l = 0
    · subst zero
      have : ¬(x.2.line ≠ 0 ∧ x.1 = n ∧ x.2.line = 0) := by omega
      simp [this]
    by_cases hit : x.1 = n ∧ x.2.line = l
    · obtain ⟨rfl, line⟩ := hit
      by_cases more : hitsOf rest x.1 l = []
      · simp [zero, more, line, addHits]
      · simp [zero, more, line, addHits]
        omega
    · simp only [hit, and_false, if_false]


/-- The line records of one dump that the accumulator takes, each with the name of its file:
the records of every path below `root` whose name lies in a relevant directory. -/
def admittedIn (root : String) (dirs : RelevantDirs) (d : Dump) : List (String × LineRecord) :=
  d.toList.flatMap fun entry =>
    match Path.relativeToRoot root entry.1 with
    | some name => if dirs.matches name then entry.2.lines.map (name, ·) else []
    | none => []

def admittedRecords (root : String) (dirs : RelevantDirs) (ds : List Dump) :
    List (String × LineRecord) :=
  ds.flatMap (admittedIn root dirs)

@[simp] theorem Accumulator.add_root (acc : Accumulator) (d : Dump) : (acc.add d).root = acc.root :=
  rfl

@[simp] theorem Accumulator.add_dirs (acc : Accumulator) (d : Dump) : (acc.add d).dirs = acc.dirs :=
  rfl

theorem Accumulator.add_files (acc : Accumulator) (d : Dump) :
    (acc.add d).files = (admittedIn acc.root acc.dirs d).foldl addRecord acc.files := by
  unfold Accumulator.add admittedIn
  simp only [Std.TreeMap.foldl_eq_foldl_toList]
  generalize acc.files = files
  induction d.toList generalizing files with
  | nil => rfl
  | cons entry rest ih =>
    rw [List.foldl_cons, List.flatMap_cons, List.foldl_append, ih]
    congr 1
    unfold Accumulator.nameOf
    cases Path.relativeToRoot acc.root entry.1 with
    | none => rfl
    | some name =>
      by_cases kept : acc.dirs.matches name
      · simp [kept, List.foldl_map, addRecord]
      · simp [kept]

theorem Accumulator.foldl_add_files (acc : Accumulator) (ds : List Dump) :
    (ds.foldl Accumulator.add acc).files =
      (admittedRecords acc.root acc.dirs ds).foldl addRecord acc.files := by
  induction ds generalizing acc with
  | nil => rfl
  | cons d rest ih =>
    rw [List.foldl_cons, ih, Accumulator.add_files]
    simp [admittedRecords, List.foldl_append]


theorem mem_admittedRecords {root : String} {dirs : RelevantDirs} {ds : List Dump}
    {x : String × LineRecord} :
    x ∈ admittedRecords root dirs ds ↔ ∃ d ∈ ds, ∃ entry ∈ d.toList,
      Path.relativeToRoot root entry.1 = some x.1 ∧ dirs.matches x.1 ∧ x.2 ∈ entry.2.lines := by
  simp only [admittedRecords, admittedIn, List.mem_flatMap]
  refine exists_congr fun d => and_congr_right fun _ => exists_congr fun entry =>
    and_congr_right fun _ => ?_
  cases Path.relativeToRoot root entry.1 with
  | none => simp
  | some name =>
    by_cases kept : dirs.matches name
    · simp only [kept, if_true, List.mem_map, Option.some.injEq]
      constructor
      · rintro ⟨r, member, rfl⟩
        exact ⟨rfl, kept, member⟩
      · rintro ⟨rfl, -, member⟩
        exact ⟨x.2, member, rfl⟩
    · rw [Bool.not_eq_true] at kept
      simp only [kept, Bool.false_eq_true, if_false, List.not_mem_nil, false_iff, not_and,
        Option.some.injEq]
      rintro rfl
      simp [kept]

/-- What the accumulator holds for line `l` of file `n` after taking `records`: nothing for
line 0 or a line no record names, else the sum of the hits stopped at `countLimit`. -/
def expectedTotal (records : List (String × LineRecord)) (n : String) (l : Nat) : Option Nat :=
  if l ≠ 0 ∧ ∃ x ∈ records, x.1 = n ∧ x.2.line = l then
    some (min (hitsOf records n l).sum countLimit)
  else none

theorem hitsOf_eq_nil (records : List (String × LineRecord)) (n : String) (l : Nat) :
    hitsOf records n l = [] ↔ ¬∃ x ∈ records, x.1 = n ∧ x.2.line = l := by
  simp only [hitsOf, List.map_eq_nil_iff, List.filter_eq_nil_iff, decide_eq_true_eq, not_exists,
    not_and]

theorem lineTotal_foldl_empty (records : List (String × LineRecord)) (n : String) (l : Nat) :
    lineTotal (records.foldl addRecord ∅) n l = expectedTotal records n l := by
  have empty : lineTotal ∅ n l = none := by simp [lineTotal]
  rw [lineTotal_foldl_addRecord, expectedTotal, empty]
  by_cases found : l ≠ 0 ∧ ∃ x ∈ records, x.1 = n ∧ x.2.line = l
  · have taken : ¬(l = 0 ∨ hitsOf records n l = []) := by
      rw [hitsOf_eq_nil]
      exact fun h => h.elim found.1 (· found.2)
    rw [if_neg taken, if_pos found, Option.getD_none, Nat.zero_add]
  · have skipped : l = 0 ∨ hitsOf records n l = [] := by
      rw [hitsOf_eq_nil]
      by_cases zero : l = 0
      exacts [.inl zero, .inr fun h => found ⟨zero, h⟩]
    rw [if_pos skipped, if_neg found]

theorem mem_foldl_addRecord (xs : List (String × LineRecord))
    (files : Std.TreeMap String LineHits compare) (n : String) :
    n ∈ xs.foldl addRecord files ↔ n ∈ files ∨ ∃ x ∈ xs, x.1 = n ∧ x.2.line ≠ 0 := by
  induction xs generalizing files with
  | nil => simp
  | cons x rest ih =>
    rw [List.foldl_cons, ih, addRecord, mem_addLine]
    simp only [List.mem_cons, exists_eq_or_imp]
    tauto

theorem expectedTotal_perm {records records' : List (String × LineRecord)}
    (perm : records.Perm records') (n : String) (l : Nat) :
    expectedTotal records n l = expectedTotal records' n l := by
  have sums : (hitsOf records n l).sum = (hitsOf records' n l).sum :=
    ((perm.filter _).map _).sum_nat
  simp only [expectedTotal, sums, perm.mem_iff]


/-- What the accumulator holds, file by file in name order, each with its totals in line
order. Two accumulators hold the same exactly when these agree. -/
def Accumulator.contents (acc : Accumulator) : List (String × List (Nat × Nat)) :=
  acc.files.toList.map fun entry => (entry.1, entry.2.toList)

theorem getElem?_eq_of_toList_eq {a b : LineHits} (same : a.toList = b.toList) (l : Nat) :
    a[l]? = b[l]? := by
  apply Option.ext
  intro hits
  rw [← Std.TreeMap.mem_toList_iff_getElem?_eq_some, ← Std.TreeMap.mem_toList_iff_getElem?_eq_some,
    same]

theorem toList_contents_eq {a b : Std.TreeMap String LineHits compare}
    (files : ∀ n, n ∈ a ↔ n ∈ b) (totals : ∀ n l, lineTotal a n l = lineTotal b n l) :
    a.toList.map (fun entry => (entry.1, entry.2.toList)) =
      b.toList.map (fun entry => (entry.1, entry.2.toList)) := by
  have equiv : (a.map fun _ lines => lines.toList).Equiv (b.map fun _ lines => lines.toList) := by
    apply Std.TreeMap.Equiv.of_forall_constGet?_eq
    intro n
    simp only [Std.TreeMap.getElem?_map]
    cases ha : a[n]? with
    | none =>
      have : n ∉ b := by rw [← files, Std.TreeMap.mem_iff_isSome_getElem?, ha]; simp
      simp [Std.TreeMap.getElem?_eq_none this]
    | some la =>
      obtain ⟨lb, hb⟩ : ∃ lb, b[n]? = some lb := by
        have : n ∈ b := by rw [← files, Std.TreeMap.mem_iff_isSome_getElem?, ha]; rfl
        exact Option.isSome_iff_exists.mp (Std.TreeMap.mem_iff_isSome_getElem?.mp this)
      have lines : la.Equiv lb := by
        apply Std.TreeMap.Equiv.of_forall_constGet?_eq
        intro l
        simpa [lineTotal, ha, hb] using totals n l
      simp [hb, Std.TreeMap.equiv_iff_toList_eq.mp lines]
  simpa [Std.TreeMap.toList_map] using Std.TreeMap.equiv_iff_toList_eq.mp equiv

theorem layout_congr (info : SourceInfo) {a b : LineHits} (same : a.toList = b.toList) :
    layout info a = layout info b := by
  simp only [layout, Std.TreeMap.foldl_eq_foldl_toList, same, Std.TreeMap.get?_eq_getElem?,
    getElem?_eq_of_toList_eq same]

theorem finishFiles_congr (root : String) (probe : Probe) {xs ys : List (String × LineHits)}
    (same : xs.map (fun entry => (entry.1, entry.2.toList)) =
      ys.map (fun entry => (entry.1, entry.2.toList))) :
    finishFiles root probe xs = finishFiles root probe ys := by
  induction xs generalizing ys with
  | nil => cases ys <;> simp_all
  | cons x rest ih =>
    cases ys with
    | nil => simp at same
    | cons y more =>
      simp only [List.map_cons, List.cons.injEq, Prod.mk.injEq] at same
      obtain ⟨⟨name, lines⟩, tail⟩ := same
      simp only [finishFiles, name, ih tail, layout_congr _ lines]

theorem Accumulator.finish_congr {a b : Accumulator} (root : a.root = b.root)
    (same : a.contents = b.contents) (probe : Probe) : a.finish probe = b.finish probe := by
  rw [Accumulator.finish, Accumulator.finish, root]
  exact finishFiles_congr b.root probe same


@[simp] theorem Accumulator.foldl_add_root (acc : Accumulator) (ds : List Dump) :
    (ds.foldl Accumulator.add acc).root = acc.root := by
  induction ds generalizing acc with
  | nil => rfl
  | cons d rest ih => rw [List.foldl_cons, ih, Accumulator.add_root]

theorem Accumulator.lineTotal_run (root : String) (dirs : RelevantDirs) (ds : List Dump)
    (n : String) (l : Nat) :
    lineTotal (ds.foldl Accumulator.add (.empty root dirs)).files n l =
      expectedTotal (admittedRecords root dirs ds) n l := by
  rw [Accumulator.foldl_add_files]
  exact lineTotal_foldl_empty _ n l

theorem Accumulator.mem_run (root : String) (dirs : RelevantDirs) (ds : List Dump) (n : String) :
    n ∈ (ds.foldl Accumulator.add (.empty root dirs)).files ↔
      ∃ x ∈ admittedRecords root dirs ds, x.1 = n ∧ x.2.line ≠ 0 := by
  rw [Accumulator.foldl_add_files, mem_foldl_addRecord]
  simp [Accumulator.empty]

theorem Accumulator.size_run (root : String) (dirs : RelevantDirs) (ds : List Dump) :
    (ds.foldl Accumulator.add (.empty root dirs)).size =
      (((admittedRecords root dirs ds).filter (·.2.line ≠ 0)).map Prod.fst).toFinset.card := by
  rw [Accumulator.size, ← Std.TreeMap.length_keys,
    ← List.toFinset_card_of_nodup Std.TreeMap.nodup_keys]
  congr 1
  ext n
  simp [Std.TreeMap.mem_keys, Accumulator.mem_run]

/-- After any sequence of dumps the accumulator holds, for each file and line, exactly the
sum of the hits admitted for it, stopped at `countLimit`. Permuting the dumps, or regrouping
their records among dumps and among paths of one name, changes neither what it holds nor
what finishing it gives. -/
theorem accumulated_totals (root : String) (dirs : RelevantDirs) (ds : List Dump) :
    let acc := ds.foldl Accumulator.add (.empty root dirs)
    let records := admittedRecords root dirs ds
    (∀ n l, lineTotal acc.files n l = expectedTotal records n l) ∧
    (∀ n, n ∈ acc.files ↔ ∃ x ∈ records, x.1 = n ∧ x.2.line ≠ 0) ∧
    acc.size = ((records.filter (·.2.line ≠ 0)).map Prod.fst).toFinset.card ∧
    ∀ ds' : List Dump, (admittedRecords root dirs ds').Perm records →
      (ds'.foldl Accumulator.add (.empty root dirs)).contents = acc.contents ∧
      ∀ probe, (ds'.foldl Accumulator.add (.empty root dirs)).finish probe = acc.finish probe := by
  intro acc records
  refine ⟨Accumulator.lineTotal_run root dirs ds, Accumulator.mem_run root dirs ds,
    Accumulator.size_run root dirs ds, ?_⟩
  intro ds' perm
  have same : (ds'.foldl Accumulator.add (.empty root dirs)).contents = acc.contents := by
    apply toList_contents_eq
    · intro n
      simp only [acc, records, Accumulator.mem_run, perm.mem_iff]
    · intro n l
      simp only [acc, records, Accumulator.lineTotal_run, expectedTotal_perm perm]
  exact ⟨same, Accumulator.finish_congr (by simp [acc]) same⟩


/-- The dumps of a run may come in either order. -/
theorem totals_of_swapped_dumps :
    let dirs := RelevantDirs.parse "src"
    let first : Dump := (∅ : Dump).insert "/w/src/a.c" { lines := [⟨1, 3, false⟩, ⟨2, 0, true⟩] }
    let second : Dump := (∅ : Dump).insert "/w/./src/a.c" { lines := [⟨1, 4, false⟩] }
    (admittedRecords "/w" dirs [second, first]).Perm (admittedRecords "/w" dirs [first, second]) ∧
      ([second, first].foldl Accumulator.add (.empty "/w" dirs)).contents =
        ([first, second].foldl Accumulator.add (.empty "/w" dirs)).contents := by
  intro dirs first second
  have swapped : (admittedRecords "/w" dirs [second, first]).Perm
      (admittedRecords "/w" dirs [first, second]) := by
    simp only [admittedRecords, List.flatMap_cons, List.flatMap_nil, List.append_nil]
    exact List.perm_append_comm
  exact ⟨swapped, ((accumulated_totals "/w" dirs [first, second]).2.2.2 _ swapped).1⟩

end LineCoverage
