import LineCoverage.Proofs.Report.Rows
/-! The rows of the index page.

The page is read with the lemmas of `Rows`: each function that writes part of the page is
unfolded into its pieces, the pieces of markup are written out as their characters, and the
scan passes over the rest. The commit table closes every row it opens, so its rows come first
and whatever it holds cannot reach into the statistics table after it.
-/

set_option autoImplicit false

namespace LineCoverage.Report

def fillerRow : List Char := "<tr class=\"filler\"><td colspan=\"13\">&nbsp;</td></tr>".toList

def statsRow (cls label : String) (s : Stats) (d : StatsDelta) : List Char :=
  ("<tr class=\"" ++ cls ++ "\"><td class=\"name\">" ++ label ++ "</td>" ++ statsCells s d ++
    "</tr>").toList

theorem rows_pageHead_append (title : String) (plain : '<' ∉ title.toList) (b : List Char) :
    rows ((pageHead title).toList ++ b) = rows b := by
  unfold pageHead
  simp only [toString, String.toList_append, List.append_assoc]
  repeat rw [String.toList_ofList]
  simp (disch := decide) only [rows_markup_append, rows_plain_append _ plain,
    rows_plain_append _ lt_not_mem_stylesheet]

/-- The commit table closes every row it opens. -/
theorem rows_commitTable_append (git : GitInfo) (b : List Char) :
    rows ((commitTable git).toList ++ b) = rows (commitTable git).toList ++ rows b := by
  conv => rhs; rw [← List.append_nil (commitTable git).toList]
  unfold commitTable personRow
  simp only [toString]
  -- with or without the committer's row, with or without a message body
  split <;> split <;> simp only [String.toList_append, List.append_assoc] <;>
    repeat rw [String.toList_ofList]
  all_goals
    simp (disch := decide) only [rows_markup_append, rows_open_markup_append,
      rowText_markup_append, rowText_close_markup_append, rowText_of_prefix,
      rowText_cons_of_not_prefix, List.nil_append, rows_nil,
      rows_plain_append _ (lt_not_mem_escape _), rowText_plain_append _ (lt_not_mem_escape _),
      rows_plain_append _ (lt_not_mem_gravatarUrl _), rowText_plain_append _ (lt_not_mem_gravatarUrl _)]
    simp only [List.cons_append, List.nil_append]

theorem commitTable_rows (git : GitInfo) :
    (rows (commitTable git).toList).length =
        (if git.head.author = git.head.committer then 4 else 5) ∧
      ∀ row ∈ rows (commitTable git).toList, "<tr>".toList <+: row := by
  rw [← List.append_nil (commitTable git).toList]
  unfold commitTable personRow
  simp only [toString]
  by_cases same : git.head.author = git.head.committer <;>
    by_cases blank : (Text.trim git.head.subjectAndBody.snd).isEmpty = true <;>
    simp only [same, blank, Bool.false_eq_true, ↓reduceIte, String.toList_append,
      List.append_assoc] <;>
    repeat rw [String.toList_ofList]
  all_goals
    simp (disch := decide) only [rows_markup_append, rows_open_markup_append,
      rowText_markup_append, rowText_close_markup_append, rowText_of_prefix,
      rowText_cons_of_not_prefix, List.nil_append, rows_nil,
      rows_plain_append _ (lt_not_mem_escape _), rowText_plain_append _ (lt_not_mem_escape _),
      rows_plain_append _ (lt_not_mem_gravatarUrl _), rowText_plain_append _ (lt_not_mem_gravatarUrl _)]
    simp only [List.length_cons, List.length_nil, List.forall_mem_cons, List.not_mem_nil,
      IsEmpty.forall_iff, implies_true, and_true, List.cons_append, List.cons_prefix_cons,
      List.nil_prefix]

theorem rows_fileRow_append (f : FileReport) (b : List Char) :
    rows ((fileRow f).toList ++ b) = (fileRow f).toList :: rows b := by
  unfold fileRow
  split <;> simp only [toString, String.toList_append, List.append_assoc] <;>
    repeat rw [String.toList_ofList]
  all_goals
    simp (disch := decide) only [rows_markup_append, rows_open_markup_append,
      rowText_markup_append, rowText_close_markup_append, rowText_of_prefix,
      rows_statsCells_append, rowText_statsCells_append, rows_plain_append _ (lt_not_mem_escape _),
      rowText_plain_append _ (lt_not_mem_escape _), rows_plain_append _ (lt_not_mem_repr _),
      rowText_plain_append _ (lt_not_mem_repr _)]
    simp only [rowClose, List.cons_append, List.nil_append]

theorem rows_directoryRows_append (r : Rollup) (name : String) (d : DirectoryReport) (b : List Char) :
    rows ((directoryRows r name d).toList ++ b) =
      fillerRow :: statsRow "dir" (escape (dirLabel name)) d.stats d.delta ::
        (r.filesIn d).map (fun f => (fileRow f).toList) ++ rows b := by
  have files : ∀ b, rows ((String.join ((r.filesIn d).map fun f => fileRow f ++ "\n")).toList ++ b) =
      (r.filesIn d).map (fun f => (fileRow f).toList) ++ rows b := by
    intro b
    rw [String.toList_join, List.flatMap_map, List.map_eq_flatMap]
    apply rows_flatMap_append
    intro f _ b
    rw [String.toList_append, List.append_assoc, rows_fileRow_append,
      rows_plain_append _ (by decide)]
    rfl
  unfold directoryRows fillerRow statsRow
  simp only [toString, String.toList_append, List.append_assoc]
  repeat rw [String.toList_ofList]
  simp (disch := decide) only [rows_markup_append, rows_open_markup_append,
    rows_skip_markup_append, rowText_markup_append, rowText_close_markup_append, rowText_of_prefix,
    rowText_cons_of_not_prefix, rows_statsCells_append, rowText_statsCells_append, files,
    rows_plain_append _ (lt_not_mem_escape _), rowText_plain_append _ (lt_not_mem_escape _)]
  simp only [rowClose, List.cons_append, List.nil_append]

def headerRow : List Char :=
  ("<tr><th>Name</th>" ++ String.join (statsTitles.map fun t => "<th>" ++ t ++ "</th><th>&nbsp;</th>") ++
    "</tr>").toList

theorem rows_directories_append (r : Rollup) (b : List Char) :
    rows ((String.join (r.dirs.toList.map fun (name, d) => directoryRows r name d)).toList ++ b) =
      (r.dirs.toList.flatMap fun e =>
        fillerRow :: statsRow "dir" (escape (dirLabel e.1)) e.2.stats e.2.delta ::
          (r.filesIn e.2).map fun f => (fileRow f).toList) ++ rows b := by
  rw [String.toList_join, List.flatMap_map]
  apply rows_flatMap_append
  rintro ⟨name, d⟩ _ b
  exact rows_directoryRows_append r name d b

theorem rows_index (git : GitInfo) (r : Rollup) :
    rows (index ⟨git, r⟩).toList =
      rows (commitTable git).toList ++ headerRow ::
        statsRow "total" "(Total)" r.total r.delta ::
          r.dirs.toList.flatMap fun e =>
            fillerRow :: statsRow "dir" (escape (dirLabel e.1)) e.2.stats e.2.delta ::
              (r.filesIn e.2).map fun f => (fileRow f).toList := by
  rw [← List.append_nil (index ⟨git, r⟩).toList]
  unfold index
  simp only [toString, String.toList_append, List.append_assoc, statsTitles, List.map_cons,
    List.map_nil, String.join_cons, String.join_nil]
  repeat rw [String.toList_ofList]
  simp (disch := decide) only [rows_markup_append, rows_open_markup_append,
    rows_skip_markup_append, rowText_markup_append, rowText_close_markup_append, rowText_of_prefix,
    List.nil_append, rows_nil, rows_statsCells_append, rowText_statsCells_append,
    rows_directories_append, rows_commitTable_append, rows_pageHead_append _ (by decide : '<' ∉ "Coverage".toList)]
  -- what is left are the header and the total row, as the statement writes them
  simp only [List.append_cancel_left_eq, List.cons.injEq, List.append_nil, and_true]
  constructor
  · unfold headerRow
    simp only [statsTitles, List.map_cons, List.map_nil, String.join_cons, String.join_nil,
      String.toList_append, List.append_assoc]
    repeat rw [String.toList_ofList]
    simp only [rowClose, List.cons_append, List.nil_append]
  · unfold statsRow
    simp only [String.toList_append, List.append_assoc]
    repeat rw [String.toList_ofList]
    simp only [rowClose, List.cons_append, List.nil_append]

/-! ## What a file's row shows -/

theorem escape_append (s t : String) : escape (s ++ t) = escape s ++ escape t := by
  apply String.ext
  simp only [escape_toList, String.toList_append, List.flatMap_append]

theorem fileRow_opens (f : FileReport) : "<tr class=\"file\">".toList <+: (fileRow f).toList := by
  unfold fileRow
  split <;> simp only [toString, String.toList_append, List.append_assoc] <;>
    repeat rw [String.toList_ofList]
  all_goals
    simp only [List.cons_append, List.cons_prefix_cons, List.nil_prefix, and_true]

theorem fileRow_link (f : FileReport) {digest : String} (present : f.digest = some digest) :
    ("<a href=\"" ++ escape digest ++ ".html#L" ++ toString f.anchorLine ++ "\">").toList <:+:
      (fileRow f).toList := by
  unfold fileRow listingFileName
  simp only [toString, present]
  rw [escape_append, show escape ".html" = ".html" by decide]
  refine ⟨"<tr class=\"file\"><td class=\"name\">".toList,
    (escape (baseName f.name) ++ "</a></td>" ++ statsCells f.stats f.delta ++ "</tr>").toList, ?_⟩
  simp only [String.toList_append, List.append_assoc]
  repeat rw [String.toList_ofList]
  simp only [List.cons_append, List.nil_append]

theorem fileRow_struck (f : FileReport) (gone : f.digest = none) :
    ("<del>" ++ escape (baseName f.name) ++ "</del>").toList <:+: (fileRow f).toList ∧
      ¬ "<a ".toList <:+: (fileRow f).toList := by
  have markup : ['<', 'a', ' '] ∈ markers := by simp [markers]
  unfold fileRow
  simp only [toString, gone, String.toList_append, List.append_assoc]
  repeat rw [String.toList_ofList]
  constructor
  · refine ⟨"<tr class=\"file\"><td class=\"name\">".toList,
      ("</td>" ++ statsCells f.stats f.delta ++ "</tr>").toList, ?_⟩
    simp only [String.toList_append, List.append_assoc]
    repeat rw [String.toList_ofList]
    simp only [List.cons_append, List.nil_append]
  · apply Free.not_infix (by decide)
    refine Free.append (by decide +kernel) (Free.append (free_of_not_mem rfl (lt_not_mem_escape _))
      (Free.append (by decide +kernel) (Free.append (free_statsCells markup _ _) (by decide +kernel))))

end LineCoverage.Report
