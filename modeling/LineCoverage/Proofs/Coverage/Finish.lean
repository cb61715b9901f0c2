import LineCoverage.Proofs.Coverage.Totals
import LineCoverage.Proofs.Dump.Reading
/-! Finishing the accumulator.

Every accumulator reached by adding dumps holds only files with at least one line and only
non-zero lines, since a file is created only when a non-zero line is added to it. Finishing
therefore writes the total of each line at the entry before its number, inside a coverage as
long as the longer of the source and the highest line held. Files are taken in increasing
order of names (the order of their characters, which is the order of their UTF-8 bytes); the
first probe failure ends the whole, and a file whose source is missing is dropped.
-/

set_option autoImplicit false

namespace LineCoverage

/-! ## Finishing file by file -/

def finishedFile (root : String) (probe : Probe) (entry : String × LineHits) : Option SourceFile :=
  match probe (Path.join root entry.1) with
  | .ok (some info) => some ⟨entry.1, info.digest, layout info entry.2⟩
  | _ => none

theorem finishedFile_eq_some (root : String) (probe : Probe) (entry : String × LineHits)
    (f : SourceFile) :
    finishedFile root probe entry = some f ↔
      ∃ info, probe (Path.join root entry.1) = .ok (some info) ∧
        f = ⟨entry.1, info.digest, layout info entry.2⟩ := by
  unfold finishedFile
  cases probe (Path.join root entry.1) with
  | error e => simp
  | ok found => cases found <;> simp [eq_comm]

theorem exists_split_cons {α : Type} (P Q : α → Prop) (x : α) (rest : List α) :
    (∃ pre y post, x :: rest = pre ++ y :: post ∧ (∀ z ∈ pre, P z) ∧ Q y) ↔
      Q x ∨ (P x ∧ ∃ pre y post, rest = pre ++ y :: post ∧ (∀ z ∈ pre, P z) ∧ Q y) := by
  constructor
  · rintro ⟨pre, y, post, split, earlier, found⟩
    cases pre with
    | nil =>
      simp only [List.nil_append, List.cons.injEq] at split
      exact .inl (split.1 ▸ found)
    | cons z pre =>
      simp only [List.cons_append, List.cons.injEq] at split
      obtain ⟨rfl, rfl⟩ := split
      exact .inr ⟨earlier x (by simp), pre, y, post, rfl, fun w member => earlier w (by simp [member]),
        found⟩
  · rintro (found | ⟨first, pre, y, post, rfl, earlier, found⟩)
    · exact ⟨[], x, rest, rfl, by simp, found⟩
    · refine ⟨x :: pre, y, post, rfl, ?_, found⟩
      simp only [List.mem_cons, forall_eq_or_imp]
      exact ⟨first, earlier⟩

theorem finishFiles_eq_error (root : String) (probe : Probe) (xs : List (String × LineHits))
    (e : Error) :
    finishFiles root probe xs = .error e ↔
      ∃ pre x post, xs = pre ++ x :: post ∧
        (∀ y ∈ pre, ∃ found, probe (Path.join root y.1) = .ok found) ∧
        probe (Path.join root x.1) = .error e := by
  induction xs with
  | nil => simp [finishFiles]
  | cons x rest ih =>
    rw [exists_split_cons, ← ih]
    obtain ⟨name, lines⟩ := x
    simp only [finishFiles]
    cases probe (Path.join root name) with
    | error e' => simp
    | ok found =>
      cases found with
      | none => simp
      | some info => cases finishFiles root probe rest <;> simp

theorem finishFiles_eq_ok (root : String) (probe : Probe) (xs : List (String × LineHits))
    (out : List SourceFile) :
    finishFiles root probe xs = .ok out ↔
      (∀ y ∈ xs, ∃ found, probe (Path.join root y.1) = .ok found) ∧
        out = xs.filterMap (finishedFile root probe) := by
  induction xs generalizing out with
  | nil => simp [finishFiles, eq_comm]
  | cons x rest ih =>
    obtain ⟨name, lines⟩ := x
    simp only [finishFiles, List.mem_cons, forall_eq_or_imp, List.filterMap_cons, finishedFile]
    cases probe (Path.join root name) with
    | error e => simp
    | ok found =>
      cases found with
      | none => simpa using ih out
      | some info =>
        cases finished : finishFiles root probe rest with
        | error e =>
          have stuck : ¬∀ y ∈ rest, ∃ found, probe (Path.join root y.1) = .ok found := by
            intro allFound
            have := (ih _).mpr ⟨allFound, rfl⟩
            rw [finished] at this
            cases this
          simp only [reduceCtorEq, false_iff, not_and]
          exact fun allFound _ => stuck allFound.2
        | ok files =>
          obtain ⟨allFound, rfl⟩ := (ih files).mp finished
          simp only [Except.ok.injEq]
          constructor
          · rintro rfl
            exact ⟨⟨⟨_, rfl⟩, allFound⟩, rfl⟩
          · rintro ⟨-, rfl⟩
            rfl

/-! ## Laying out one file -/

def highestLine (lines : LineHits) : Nat := lines.maxKey?.getD 0

theorem max?_keys (lines : LineHits) : lines.keys.max? = lines.maxKey? := by
  apply Option.ext
  intro top
  rw [List.max?_eq_some_iff, Std.TreeMap.maxKey?_eq_some_iff_mem_and_forall]
  simp only [Std.TreeMap.mem_keys, Nat.isLE_compare]

theorem foldl_max_eq_highestLine (lines : LineHits) :
    lines.foldl (fun top l _ => max top l) 0 = highestLine lines := by
  have keys : lines.toList.foldl (fun top entry => max top entry.1) 0 = lines.keys.foldl max 0 := by
    rw [← Std.TreeMap.map_fst_toList_eq_keys, List.foldl_map]
  rw [Std.TreeMap.foldl_eq_foldl_toList, keys, List.foldl_max, highestLine, max?_keys]
  simp

theorem le_highestLine {lines : LineHits} {l : Nat} (held : l ∈ lines) : l ≤ highestLine lines := by
  rw [highestLine, ← max?_keys]
  obtain ⟨top, found⟩ := Option.isSome_iff_exists.mp
    (List.isSome_max?_of_mem (Std.TreeMap.mem_keys.mpr held))
  rw [found]
  exact (List.max?_eq_some_iff.mp found).2 l (Std.TreeMap.mem_keys.mpr held)

/-- How a file's coverage lays out the totals of its lines over a source of `info`: one entry
per line up to the longer of the source and the highest line held, each the total of its
line or nothing. -/
def LaidOut (info : SourceInfo) (lines : LineHits) (coverage : List (Option Nat)) : Prop :=
  coverage.length = max info.lineCount (highestLine lines) ∧
    ∀ i (inside : i < coverage.length), coverage[i] = lines[i + 1]?

theorem layout_laidOut (info : SourceInfo) (lines : LineHits) :
    LaidOut info lines (layout info lines) := by
  constructor
  · simp [layout, foldl_max_eq_highestLine]
  · intro i inside
    simp [layout]

theorem LaidOut.held {info : SourceInfo} {lines : LineHits} {coverage : List (Option Nat)}
    (laid : LaidOut info lines coverage) {l : Nat} (positive : 0 < l) (held : l ∈ lines) :
    ∃ inside : l - 1 < coverage.length, coverage[l - 1] = lines[l]? := by
  have bound : l - 1 < coverage.length := by
    have := le_highestLine held
    rw [laid.1]
    omega
  refine ⟨bound, ?_⟩
  rw [laid.2 _ bound, Nat.sub_add_cancel positive]

/-! ## Files in name order -/

theorem string_compare_eq_lt (a b : String) : compare a b = .lt ↔ a < b :=
  compareOfLessAndEq_eq_lt

theorem toList_sorted (files : Std.TreeMap String LineHits compare) :
    files.toList.Pairwise fun a b => a.1 < b.1 := by
  have ordered := Std.TreeMap.ordered_keys (t := files)
  rw [← Std.TreeMap.map_fst_toList_eq_keys, List.pairwise_map] at ordered
  exact ordered.imp fun lt => (string_compare_eq_lt _ _).mp lt

theorem mem_prefix_iff {xs pre post : List (String × LineHits)} {x : String × LineHits}
    (sorted : xs.Pairwise fun a b => a.1 < b.1) (split : xs = pre ++ x :: post)
    (y : String × LineHits) : y ∈ pre ↔ y ∈ xs ∧ y.1 < x.1 := by
  subst split
  rw [List.pairwise_append, List.pairwise_cons] at sorted
  obtain ⟨-, ⟨after, -⟩, before⟩ := sorted
  constructor
  · intro member
    exact ⟨List.mem_append_left _ member, before y member x (by simp)⟩
  · rintro ⟨member, smaller⟩
    rcases List.mem_append.mp member with early | late
    · exact early
    · rcases List.mem_cons.mp late with rfl | later
      · exact absurd smaller (String.lt_irrefl _)
      · exact absurd (String.lt_trans smaller (after y later)) (String.lt_irrefl _)

theorem mem_iff_exists_mem_toList (files : Std.TreeMap String LineHits compare) (n : String) :
    n ∈ files ↔ ∃ lines, (n, lines) ∈ files.toList := by
  simp only [Std.TreeMap.mem_toList_iff_getElem?_eq_some, Std.TreeMap.mem_iff_isSome_getElem?,
    Option.isSome_iff_exists]

theorem finishFiles_toList_eq_error (root : String) (probe : Probe)
    (files : Std.TreeMap String LineHits compare) (e : Error) :
    finishFiles root probe files.toList = .error e ↔
      ∃ n ∈ files, probe (Path.join root n) = .error e ∧
        ∀ m ∈ files, m < n → ∃ found, probe (Path.join root m) = .ok found := by
  rw [finishFiles_eq_error]
  constructor
  · rintro ⟨pre, x, post, split, earlier, failed⟩
    have member : x ∈ files.toList := by simp [split]
    refine ⟨x.1, (mem_iff_exists_mem_toList files x.1).mpr ⟨x.2, member⟩, failed, ?_⟩
    intro m held smaller
    obtain ⟨lines, entry⟩ := (mem_iff_exists_mem_toList files m).mp held
    exact earlier (m, lines) ((mem_prefix_iff (toList_sorted files) split _).mpr ⟨entry, smaller⟩)
  · rintro ⟨n, held, failed, earlier⟩
    obtain ⟨lines, entry⟩ := (mem_iff_exists_mem_toList files n).mp held
    obtain ⟨pre, post, split⟩ := List.append_of_mem entry
    refine ⟨pre, (n, lines), post, split, fun y member => ?_, failed⟩
    obtain ⟨entry, smaller⟩ := (mem_prefix_iff (toList_sorted files) split y).mp member
    exact earlier y.1 ((mem_iff_exists_mem_toList files y.1).mpr ⟨y.2, entry⟩) smaller

theorem finished_sorted (root : String) (probe : Probe)
    (files : Std.TreeMap String LineHits compare) :
    (files.toList.filterMap (finishedFile root probe)).Pairwise fun a b => a.name < b.name := by
  refine (toList_sorted files).filterMap _ ?_
  intro a b smaller f first g second
  obtain ⟨-, -, rfl⟩ := (finishedFile_eq_some root probe a f).mp first
  obtain ⟨-, -, rfl⟩ := (finishedFile_eq_some root probe b g).mp second
  exact smaller

theorem exists_finished_iff (root : String) (probe : Probe)
    (files : Std.TreeMap String LineHits compare) (n : String) :
    (∃ f ∈ files.toList.filterMap (finishedFile root probe), f.name = n) ↔
      n ∈ files ∧ ∃ info, probe (Path.join root n) = .ok (some info) := by
  simp only [List.mem_filterMap, finishedFile_eq_some]
  constructor
  · rintro ⟨f, ⟨entry, listed, info, found, rfl⟩, rfl⟩
    exact ⟨(mem_iff_exists_mem_toList _ _).mpr ⟨entry.2, listed⟩, info, found⟩
  · rintro ⟨member, info, found⟩
    obtain ⟨lines, listed⟩ := (mem_iff_exists_mem_toList _ _).mp member
    exact ⟨_, ⟨(n, lines), listed, info, found, rfl⟩, rfl⟩

theorem mem_finished {root : String} {probe : Probe}
    {files : Std.TreeMap String LineHits compare} {f : SourceFile}
    (member : f ∈ files.toList.filterMap (finishedFile root probe)) :
    ∃ lines info, files[f.name]? = some lines ∧ probe (Path.join root f.name) = .ok (some info) ∧
      f = ⟨f.name, info.digest, layout info lines⟩ := by
  obtain ⟨entry, listed, info, found, rfl⟩ :=
    (List.mem_filterMap.mp member).imp fun _ => And.imp_right (finishedFile_eq_some _ _ _ _).mp
  exact ⟨entry.2, info, Std.TreeMap.mem_toList_iff_getElem?_eq_some.mp listed, found, rfl⟩

/-! ## Reachable accumulators -/

/-- Line numbers below `2^32`, the range of the 32-bit field the dump reader reads them into. -/
def Dump.LinesFit (d : Dump) : Prop :=
  ∀ (path : String) (records : FileRecords), d[path]? = some records →
    ∀ r ∈ records.lines, r.line < 2 ^ 32

theorem read_linesFit {bytes : List UInt8} {d : Dump} (done : Dump.read bytes = .ok d) :
    d.LinesFit := by
  intro path records found r member
  obtain ⟨value, a, b, c, flag, -, line, -⟩ := Dump.lineCountFields_of_read done found member
  exact Dump.lt_bound_of_read? line

theorem line_lt_of_admitted {root : String} {dirs : RelevantDirs} {ds : List Dump}
    (fits : ∀ d ∈ ds, d.LinesFit) {x : String × LineRecord}
    (admitted : x ∈ admittedRecords root dirs ds) : x.2.line < 2 ^ 32 := by
  obtain ⟨d, member, entry, listed, -, -, line⟩ := mem_admittedRecords.mp admitted
  exact fits d member entry.1 entry.2 (Std.TreeMap.mem_toList_iff_getElem?_eq_some.mp listed) x.2 line

/-- Every file the accumulator holds has a line, and every line it holds is the non-zero line
of an admitted record, with a total of at most `countLimit`. -/
theorem Accumulator.held_run (root : String) (dirs : RelevantDirs) (ds : List Dump) {n : String}
    {lines : LineHits} (found : (ds.foldl Accumulator.add (.empty root dirs)).files[n]? = some lines) :
    (∃ l, l ∈ lines) ∧ ∀ l h, lines[l]? = some h →
      0 < l ∧ h ≤ countLimit ∧ ∃ x ∈ admittedRecords root dirs ds, x.1 = n ∧ x.2.line = l := by
  constructor
  · have member : n ∈ (ds.foldl Accumulator.add (.empty root dirs)).files :=
      Std.TreeMap.mem_iff_isSome_getElem?.mpr (by simp [found])
    obtain ⟨x, admitted, rfl, nonzero⟩ := (Accumulator.mem_run root dirs ds n).mp member
    have total := Accumulator.lineTotal_run root dirs ds x.1 x.2.line
    rw [expectedTotal, if_pos ⟨nonzero, x, admitted, rfl, rfl⟩, lineTotal, found,
      Option.bind_some] at total
    exact ⟨x.2.line, Std.TreeMap.mem_iff_isSome_getElem?.mpr (by simp [total])⟩
  · intro l h held
    have total := Accumulator.lineTotal_run root dirs ds n l
    rw [lineTotal, found, Option.bind_some, held, expectedTotal] at total
    split_ifs at total with present
    · obtain ⟨nonzero, found⟩ := present
      refine ⟨Nat.pos_of_ne_zero nonzero, ?_, found⟩
      rw [Option.some.inj total]
      exact Nat.min_le_right _ _

/-- Every accumulator reached by adding dumps holds only files with a line and only non-zero
lines, below `2^32` when the dumps' line numbers are; so finishing writes each line's total
inside the coverage. Finishing fails exactly with the probe failure of the first name, in
name order, whose probe fails; otherwise it gives, in increasing order of names, exactly the
held files whose source is found, each with the source's digest and its totals laid out. -/
theorem finish_of_reachable (root : String) (dirs : RelevantDirs) (ds : List Dump)
    (probe : Probe) :
    let acc := ds.foldl Accumulator.add (.empty root dirs)
    (∀ (n : String) (lines : LineHits), acc.files[n]? = some lines →
      (∃ l, l ∈ lines) ∧ ∀ l ∈ lines, 0 < l) ∧
    ((∀ d ∈ ds, d.LinesFit) →
      ∀ (n : String) (lines : LineHits), acc.files[n]? = some lines → ∀ l ∈ lines, l < 2 ^ 32) ∧
    (∀ e, acc.finish probe = .error e ↔
      ∃ n ∈ acc.files, probe (Path.join root n) = .error e ∧
        ∀ m ∈ acc.files, m < n → ∃ found, probe (Path.join root m) = .ok found) ∧
    ((∀ n ∈ acc.files, ∃ found, probe (Path.join root n) = .ok found) →
      ∃ out, acc.finish probe = .ok out ∧
        out.Pairwise (fun a b => a.name < b.name) ∧
        (∀ n, (∃ f ∈ out, f.name = n) ↔
          n ∈ acc.files ∧ ∃ info, probe (Path.join root n) = .ok (some info)) ∧
        ∀ f ∈ out, ∃ lines info, acc.files[f.name]? = some lines ∧
          probe (Path.join root f.name) = .ok (some info) ∧ f.digest = info.digest ∧
          LaidOut info lines f.coverage ∧
          ∀ l ∈ lines, ∃ inside : l - 1 < f.coverage.length, f.coverage[l - 1] = lines[l]?) := by
  intro acc
  -- every held line is the non-zero line of an admitted record
  have held : ∀ (n : String) (lines : LineHits), acc.files[n]? = some lines → ∀ l ∈ lines,
      0 < l ∧ ∃ x ∈ admittedRecords root dirs ds, x.1 = n ∧ x.2.line = l := by
    intro n lines found l member
    obtain ⟨h, total⟩ := Option.isSome_iff_exists.mp (Std.TreeMap.mem_iff_isSome_getElem?.mp member)
    obtain ⟨positive, -, record⟩ := (Accumulator.held_run root dirs ds found).2 l h total
    exact ⟨positive, record⟩
  have finishes : acc.finish probe = finishFiles root probe acc.files.toList := by
    simp [acc, Accumulator.finish, Accumulator.empty]
  refine ⟨fun n lines found => ⟨(Accumulator.held_run root dirs ds found).1,
      fun l member => (held n lines found l member).1⟩, ?_, ?_, ?_⟩
  · intro fits n lines found l member
    obtain ⟨-, x, admitted, -, rfl⟩ := held n lines found l member
    exact line_lt_of_admitted fits admitted
  · rw [finishes]
    exact finishFiles_toList_eq_error root probe acc.files
  · intro allFound
    rw [finishes]
    refine ⟨_, (finishFiles_eq_ok root probe acc.files.toList _).mpr
      ⟨fun y member => allFound y.1 ((mem_iff_exists_mem_toList _ _).mpr ⟨y.2, member⟩), rfl⟩,
      ?_, ?_, ?_⟩
    · exact finished_sorted root probe acc.files
    · exact exists_finished_iff root probe acc.files
    · intro f member
      obtain ⟨lines, info, lookup, found, same⟩ := mem_finished member
      have laid := layout_laidOut info lines
      refine ⟨lines, info, lookup, found, by rw [same], same ▸ laid, fun l member => ?_⟩
      rw [same]
      exact laid.held (held f.name lines lookup l member).1 member

/-- A run of one dump whose line numbers fit and whose source is found. -/
theorem finish_of_reachable_found :
    let dirs := RelevantDirs.parse "src"
    let ds : List Dump := [(∅ : Dump).insert "/w/src/a.c" { lines := [⟨2, 5, false⟩] }]
    let probe : Probe := fun _ => .ok (some ⟨"d", 1⟩)
    let acc := ds.foldl Accumulator.add (.empty "/w" dirs)
    (∀ d ∈ ds, d.LinesFit) ∧ (∀ n ∈ acc.files, ∃ found, probe (Path.join "/w" n) = .ok found) ∧
      (∀ (n : String) (lines : LineHits), acc.files[n]? = some lines → ∀ l ∈ lines, l < 2 ^ 32) ∧
      ∃ out, acc.finish probe = .ok out := by
  intro dirs ds probe acc
  have fits : ∀ d ∈ ds, d.LinesFit := by
    simp only [ds, List.mem_singleton, forall_eq]
    intro path records found r member
    rw [Std.TreeMap.getElem?_insert, Std.TreeMap.getElem?_emptyc] at found
    split at found
    · cases found
      simp only [List.mem_singleton] at member
      simp [member]
    · cases found
  have allFound : ∀ n ∈ acc.files, ∃ found, probe (Path.join "/w" n) = .ok found :=
    fun _ _ => ⟨_, rfl⟩
  have spec := finish_of_reachable "/w" dirs ds probe
  exact ⟨fits, allFound, spec.2.1 fits, (spec.2.2.2 allFound).imp fun _ => And.left⟩

end LineCoverage
