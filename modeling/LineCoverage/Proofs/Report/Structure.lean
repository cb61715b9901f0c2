import LineCoverage.Proofs.Report.Listing
import LineCoverage.Proofs.Rollup.Partition
import Mathlib
/-! The rows of the report's pages, whatever text its snapshots and sources hold.

The index of a rollup built from snapshots lists its directories in name order, each with the
files it is the directory of, again in name order, so the number of its rows is fixed by the
commit and the number of directories and files alone. Every text placed in a page is escaped
first, which is what `Rows` needs to pass over it: no name, message or line of code can open,
close or forge a row.
-/

set_option autoImplicit false

namespace LineCoverage

theorem sorted_keys {β : Type} (m : Std.TreeMap String β compare) : m.keys.Pairwise (· < ·) := by
  have lt_of_compare : ∀ a b : String, compare a b = .lt → a < b := fun _ _ =>
    compareOfLessAndEq_eq_lt.mp
  exact Std.TreeMap.ordered_keys.imp (lt_of_compare _ _)

theorem Rollup.build_filesIn {c : Snapshot} {p : Option Snapshot} {e : String × DirectoryReport}
    (mem : e ∈ (Rollup.build c p).dirs.toList) :
    ((Rollup.build c p).filesIn e.2).map FileReport.name =
      (Rollup.build c p).files.keys.filter (parentDir · = e.1) := by
  have found := Std.TreeMap.mem_toList_iff_getElem?_eq_some.mp mem
  rw [Rollup.filesIn_of_found found, List.map_map, Rollup.eq_dirOf found]
  exact List.map_id _

theorem Rollup.build_file_rows (c : Snapshot) (p : Option Snapshot) :
    ((Rollup.build c p).dirs.toList.map fun e => ((Rollup.build c p).filesIn e.2).length).sum =
      (Rollup.build c p).files.size := by
  let r := Rollup.build c p
  let members : String → List String := fun d => r.files.keys.filter (parentDir · = d)
  have covered : ∀ n ∈ r.files.keys, parentDir n ∈ r.dirs.keys := by
    intro n member
    rw [Std.TreeMap.mem_keys, Rollup.mem_build_dirs]
    exact ⟨n, member, rfl⟩
  have regrouped : (r.dirs.keys.flatMap members).Perm r.files.keys :=
    flatMap_filter_perm parentDir Std.TreeMap.nodup_keys Std.TreeMap.nodup_keys covered
  calc (r.dirs.toList.map fun e => (r.filesIn e.2).length).sum
      = (r.dirs.toList.map fun e => (members e.1).length).sum := by
        congr 1
        refine List.map_congr_left fun e mem => ?_
        rw [show members e.1 = _ from (Rollup.build_filesIn mem).symm, List.length_map]
    _ = (r.dirs.keys.flatMap members).length := by
        rw [List.length_flatMap, ← Std.TreeMap.map_fst_toList_eq_keys, List.map_map]
        rfl
    _ = r.files.size := by
        rw [regrouped.length_eq, Std.TreeMap.length_keys]

end LineCoverage

namespace LineCoverage.Report

theorem statsRow_opens (cls label : String) (s : Stats) (d : StatsDelta) :
    ("<tr class=\"" ++ cls ++ "\">").toList <+: statsRow cls label s d := by
  unfold statsRow
  simp only [String.toList_append, List.append_assoc]
  repeat rw [String.toList_ofList]
  simp only [List.cons_append, List.nil_append, List.cons_prefix_cons, true_and,
    List.prefix_append_right_inj, List.nil_prefix]

theorem not_prefix_of_prefix {p q row : List Char} (opens : q <+: row)
    (apart : ¬ p <+: q ∧ ¬ q <+: p) : ¬ p <+: row := fun pre =>
  (List.prefix_or_prefix_of_prefix pre opens).elim apart.1 apart.2

theorem index_total_row (git : GitInfo) (r : Rollup) :
    (rows (index ⟨git, r⟩).toList).countP ("<tr class=\"total\">".toList <+: ·) = 1 := by
  -- every other row opens with a bare `<tr>` or with another class
  have commit : (rows (commitTable git).toList).countP ("<tr class=\"total\">".toList <+: ·) = 0 := by
    refine List.countP_eq_zero.mpr fun row mem => ?_
    rw [decide_eq_true_eq]
    exact not_prefix_of_prefix ((commitTable_rows git).2 row mem)
      (by repeat rw [String.toList_ofList]; decide)
  have header : ¬ "<tr class=\"total\">".toList <+: headerRow := by
    refine not_prefix_of_prefix (q := "<tr>".toList) ?_ (by repeat rw [String.toList_ofList]; decide)
    unfold headerRow
    simp only [String.toList_append, List.append_assoc]
    exact List.prefix_append _ _
  have filler : ¬ "<tr class=\"total\">".toList <+: fillerRow := by
    unfold fillerRow
    repeat rw [String.toList_ofList]
    decide
  have dir : ∀ label s d, ¬ "<tr class=\"total\">".toList <+: statsRow "dir" label s d :=
    fun label s d => not_prefix_of_prefix (statsRow_opens "dir" label s d)
      (by simp only [String.toList_append]; repeat rw [String.toList_ofList]; decide)
  have file : ∀ f, ¬ "<tr class=\"total\">".toList <+: (fileRow f).toList := fun f =>
    not_prefix_of_prefix (fileRow_opens f) (by repeat rw [String.toList_ofList]; decide)
  have total : "<tr class=\"total\">".toList <+: statsRow "total" "(Total)" r.total r.delta := by
    have opens := statsRow_opens "total" "(Total)" r.total r.delta
    simp only [String.toList_append] at opens
    repeat rw [String.toList_ofList] at opens
    rw [String.toList_ofList]
    simpa only [List.cons_append, List.nil_append] using opens
  rw [rows_index, List.countP_append,
    List.countP_cons_of_neg (by simpa only [decide_eq_true_eq] using header),
    List.countP_cons_of_pos (by simpa only [decide_eq_true_eq] using total),
    commit, List.countP_eq_zero.mpr]
  simp only [List.mem_flatMap, List.mem_cons, List.mem_map, decide_eq_true_eq]
  intro row mem
  obtain ⟨e, -, filled | named | ⟨f, -, listed⟩⟩ := mem
  · exact filled ▸ filler
  · exact named ▸ dir _ e.2.stats e.2.delta
  · exact listed ▸ file f

theorem index_row_count (git : GitInfo) (c : Snapshot) (p : Option Snapshot) :
    (rows (index ⟨git, Rollup.build c p⟩).toList).length =
      (if git.head.author = git.head.committer then 6 else 7) +
        2 * (Rollup.build c p).dirs.size + (Rollup.build c p).files.size := by
  have directories : ((Rollup.build c p).dirs.toList.map fun e =>
      ((Rollup.build c p).filesIn e.2).length + 2).sum =
      (Rollup.build c p).files.size + 2 * (Rollup.build c p).dirs.size := by
    rw [List.sum_map_add, Rollup.build_file_rows, List.map_const', List.sum_replicate_nat,
      Std.TreeMap.length_toList, Nat.mul_comm]
  rw [rows_index, List.length_append, (commitTable_rows git).1, List.length_cons, List.length_cons,
    List.length_flatMap]
  simp only [List.length_cons, List.length_map, Nat.add_assoc, Nat.reduceAdd]
  rw [directories]
  split <;> omega

/-- No text that a report takes from its snapshots or sources changes the rows of its pages.
The index of a built rollup has the commit table's rows (four, or five when someone other
than the author committed, each a bare `<tr>`), the header, exactly one total row, and then
for each directory in name order a filler row, its row labelled with its escaped name, and the
rows of the files it is the directory of, in name order: a `<tr>` starts at six or seven
places, two more per directory and one more per file. A file's row links to its listing at
its anchor line while it has a digest, and is struck out and links nowhere once it has none.
A listing has one row per line of its text, anchored by its line number, classed by the
line's coverage, and showing a count exactly when the line ran that many times. -/
theorem pages_keep_row_structure (git : GitInfo) (c : Snapshot) (p : Option Snapshot)
    (f : FileReport) (content : String) :
    let r := Rollup.build c p
    let page := rows (index ⟨git, r⟩).toList
    let listed := rows (listing f content).toList
    (∃ commit : List (List Char),
      commit.length = (if git.head.author = git.head.committer then 4 else 5) ∧
      (∀ row ∈ commit, "<tr>".toList <+: row) ∧
      page = commit ++ headerRow :: statsRow "total" "(Total)" r.total r.delta ::
        r.dirs.toList.flatMap fun e =>
          fillerRow :: statsRow "dir" (escape (dirLabel e.1)) e.2.stats e.2.delta ::
            (r.filesIn e.2).map fun file => (fileRow file).toList) ∧
    page.countP ("<tr class=\"total\">".toList <+: ·) = 1 ∧
    r.dirs.keys.Pairwise (· < ·) ∧
    (∀ e ∈ r.dirs.toList,
      (r.filesIn e.2).map FileReport.name = r.files.keys.filter (parentDir · = e.1) ∧
      ((r.filesIn e.2).map FileReport.name).Pairwise (· < ·)) ∧
    (index ⟨git, r⟩).toList.tails.countP ("<tr".toList <+: ·) =
      (if git.head.author = git.head.committer then 6 else 7) + 2 * r.dirs.size + r.files.size ∧
    (∀ file : FileReport,
      (∀ digest, file.digest = some digest →
        ("<a href=\"" ++ escape digest ++ ".html#L" ++ toString file.anchorLine ++ "\">").toList <:+:
          (fileRow file).toList) ∧
      (file.digest = none →
        ("<del>" ++ escape (baseName file.name) ++ "</del>").toList <:+: (fileRow file).toList ∧
        ¬ "<a ".toList <:+: (fileRow file).toList)) ∧
    listed.length = (Text.lines content).length ∧
    ∀ i row, listed[i]? = some row →
      ("name=\"L" ++ toString (i + 1) ++ "\"").toList <:+: row ∧
      ("<tr class=\"success\">".toList <+: row ↔ ∃ n, 0 < n ∧ f.coverage[i]? = some (some n)) ∧
      ("<tr class=\"error\">".toList <+: row ↔ f.coverage[i]? = some (some 0)) ∧
      ("<tr>".toList <+: row ↔ f.coverage[i]? = none ∨ f.coverage[i]? = some none) ∧
      ∀ n, hitsCell (i + 1) n <:+: row ↔ 0 < n ∧ f.coverage[i]? = some (some n) := by
  intro r page listed
  have opens : "<tr".toList = rowOpen := by
    rw [String.toList_ofList]
    rfl
  refine ⟨⟨rows (commitTable git).toList, (commitTable_rows git).1, (commitTable_rows git).2,
      rows_index git r⟩, index_total_row git r, sorted_keys r.dirs, fun e mem => ?_,
    ?_, fun file => ⟨fun digest present => fileRow_link file present, fileRow_struck file⟩,
    listing_rows f content⟩
  case refine_1 =>
    -- the files of a directory are a part of the file map, in its order
    rw [Rollup.build_filesIn mem]
    exact ⟨rfl, (sorted_keys r.files).filter _⟩
  case refine_2 =>
    rw [opens, ← length_rows]
    exact index_row_count git c p

end LineCoverage.Report
