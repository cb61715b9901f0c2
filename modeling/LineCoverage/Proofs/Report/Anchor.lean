import LineCoverage.Proofs.Report.Structure
import LineCoverage.Proofs.Text.Decoding
import LineCoverage.Proofs.Coverage.Finish
/-! Index links land on a listed row.

The line count a probe finds counts line feeds in a file's bytes; a listing reads lines in
the text decoded from them, so the two agree (`lines_decodeLossy`). A file finished from a
reachable accumulator has a relevant line, since every file held has a line; its anchor is
the first line that ran, else the first relevant line, and when its relevant lines lie inside
the source the anchor is a row of its listing.
-/

set_option autoImplicit false

namespace LineCoverage

theorem firstIndex_eq_some {p : Option Nat → Bool} {l : List (Option Nat)} {i : Nat}
    (found : firstIndex p l = some i) : ∃ x, l[i]? = some x ∧ p x = true := by
  induction l generalizing i with
  | nil => cases found
  | cons x rest ih =>
    rw [firstIndex] at found
    split at found
    · rename_i holds
      cases found
      exact ⟨x, rfl, holds⟩
    · obtain ⟨j, later, rfl⟩ := Option.map_eq_some_iff.mp found
      exact ih later

theorem isSome_firstIndex {p : Option Nat → Bool} {l : List (Option Nat)} {x : Option Nat}
    (mem : x ∈ l) (holds : p x = true) : (firstIndex p l).isSome := by
  induction l with
  | nil => cases mem
  | cons y rest ih =>
    rw [firstIndex]
    split
    · rfl
    · rcases List.mem_cons.mp mem with rfl | later
      · contradiction
      · simpa using ih later

/-- A file with a relevant line opens at a relevant line, and at one that ran when any did. -/
theorem FileReport.anchorLine_relevant {f : FileReport} {i h : Nat}
    (relevant : f.coverage[i]? = some (some h)) :
    ∃ j k : Nat, f.anchorLine = j + 1 ∧ f.coverage[j]? = some (some k) ∧
      ((∃ (i h : Nat), f.coverage[i]? = some (some h) ∧ 0 < h) → 0 < k) := by
  unfold FileReport.anchorLine
  split
  · -- the first line that ran
    rename_i j first
    obtain ⟨x, found, ran⟩ := firstIndex_eq_some first
    cases x with
    | none => cases ran
    | some k => exact ⟨j, k, rfl, found, fun _ => by simpa using ran⟩
  · rename_i none_ran
    have relevantFound : (firstIndex Option.isSome f.coverage).isSome :=
      isSome_firstIndex (List.mem_of_getElem? relevant) rfl
    obtain ⟨j, first⟩ := Option.isSome_iff_exists.mp relevantFound
    rw [first]
    obtain ⟨x, found, present⟩ := firstIndex_eq_some first
    cases x with
    | none => cases present
    | some k =>
      refine ⟨j, k, rfl, found, ?_⟩
      -- no line ran, so the search for one would have found it
      rintro ⟨i', h', ran, pos⟩
      exact absurd none_ran (Option.isSome_iff_ne_none.mp
        (isSome_firstIndex (List.mem_of_getElem? ran) (by simpa using pos)))

theorem finished_files {root : String} {dirs : RelevantDirs} {ds : List Dump} {probe : Probe}
    {out : List SourceFile} (done : (ds.foldl Accumulator.add (.empty root dirs)).finish probe = .ok out) :
    (out.map SourceFile.name).Nodup ∧ ∀ f ∈ out, ∃ i h : Nat, f.coverage[i]? = some (some h) := by
  let acc := ds.foldl Accumulator.add (.empty root dirs)
  have finishes : acc.finish probe = finishFiles root probe acc.files.toList := by
    simp [acc, Accumulator.finish, Accumulator.empty]
  obtain ⟨-, listed⟩ := (finishFiles_eq_ok root probe acc.files.toList out).mp (finishes ▸ done)
  refine ⟨?_, fun f member => ?_⟩
  · have sorted := finished_sorted root probe acc.files
    rw [← listed] at sorted
    refine (List.pairwise_map.mpr sorted).imp fun {a b} smaller same => ?_
    rw [same] at smaller
    exact String.lt_irrefl b smaller
  · rw [listed] at member
    obtain ⟨lines, info, found, -, same⟩ := mem_finished member
    obtain ⟨⟨l, held⟩, positive⟩ := Accumulator.held_run root dirs ds found
    obtain ⟨h, total⟩ := Option.isSome_iff_exists.mp (Std.TreeMap.mem_iff_isSome_getElem?.mp held)
    -- the held line lands in the coverage at the entry before its number
    have laid : LaidOut info lines f.coverage := by
      rw [same]
      exact layout_laidOut info lines
    obtain ⟨inside, entry⟩ := laid.held (positive l h total).1 held
    refine ⟨l - 1, h, ?_⟩
    rw [List.getElem?_eq_getElem inside, entry, total]

theorem Rollup.build_coverage {s : Snapshot} (p : Option Snapshot) {f : SourceFile}
    (distinct : (s.sourceFiles.map SourceFile.name).Nodup) (member : f ∈ s.sourceFiles) :
    ∃ report, (Rollup.build s p).files[f.name]? = some report ∧ report.coverage = f.coverage := by
  refine ⟨Rollup.reportOf s p f.name, ?_, ?_⟩
  · rw [Rollup.getElem?_build_files, if_pos (.inl ⟨f, member, rfl⟩)]
  · simp [Rollup.reportOf, lastNamed_of_nodup distinct member]

end LineCoverage

namespace LineCoverage.Report

/-- A file's listing over the text read from its bytes has a row at the file's anchor line,
when every relevant line of the file lies inside the text and one exists; that row is
anchored by the line's number and marked a success when any line ran, an error otherwise. -/
theorem listing_anchor_row (f : FileReport) (content : List UInt8) {i h : Nat}
    (relevant : f.coverage[i]? = some (some h))
    (inside : ∀ i h, f.coverage[i]? = some (some h) → i < lineCountOf content) :
    1 ≤ f.anchorLine ∧ f.anchorLine ≤ lineCountOf content ∧
    ∃ row, (rows (listing f (Text.Utf8.decodeLossy content)).toList)[f.anchorLine - 1]? = some row ∧
      ("name=\"L" ++ toString f.anchorLine ++ "\"").toList <:+: row ∧
      ((∃ (i h : Nat), f.coverage[i]? = some (some h) ∧ 0 < h) →
        "<tr class=\"success\">".toList <+: row) ∧
      ((¬ ∃ (i h : Nat), f.coverage[i]? = some (some h) ∧ 0 < h) →
        "<tr class=\"error\">".toList <+: row) := by
  obtain ⟨j, k, anchor, found, ran⟩ := f.anchorLine_relevant relevant
  have within := inside j k found
  obtain ⟨counted, each⟩ := listing_rows f (Text.Utf8.decodeLossy content)
  rw [lines_decodeLossy] at counted
  obtain ⟨row, atRow⟩ : ∃ row,
      (rows (listing f (Text.Utf8.decodeLossy content)).toList)[j]? = some row :=
    ⟨_, List.getElem?_eq_getElem (by omega)⟩
  obtain ⟨named, success, error, -, -⟩ := each j row atRow
  rw [anchor, Nat.add_sub_cancel]
  refine ⟨by omega, by omega, row, atRow, named, fun hit => success.mpr ⟨k, ran hit, found⟩,
    fun none => error.mpr ?_⟩
  -- no line ran, so neither did the anchor's
  have never : k = 0 := by
    by_contra ne
    exact none ⟨j, k, found, Nat.pos_of_ne_zero ne⟩
  rw [found, never]

/-- The listing of a file has as many rows as the line count found by probing its bytes,
though one counts line feeds in the bytes and the other reads lines in the lossily decoded
text. So a file finished from a reachable accumulator, whose source the probe read from those
bytes and whose instrumented lines all lie inside them, is reported by a rollup of the
finished files with its own coverage and an anchor line between 1 and the line count, whose
listing row carries the anchor that the index links to and is marked a success when any line
of the file ran, an error otherwise. -/
theorem listings_match_probed_lines :
    (∀ (f : FileReport) (content : List UInt8),
      (rows (listing f (Text.Utf8.decodeLossy content)).toList).length =
        (SourceInfo.ofContent content).lineCount) ∧
    ∀ (root : String) (dirs : RelevantDirs) (ds : List Dump) (probe : Probe)
      (out : List SourceFile) (f : SourceFile) (content : List UInt8) (s : Snapshot)
      (p : Option Snapshot),
      (ds.foldl Accumulator.add (.empty root dirs)).finish probe = .ok out → f ∈ out →
      probe (Path.join root f.name) = .ok (some (SourceInfo.ofContent content)) →
      (∀ i h, f.coverage[i]? = some (some h) → i < (SourceInfo.ofContent content).lineCount) →
      s.sourceFiles = out →
      ∃ report, (Rollup.build s p).files[f.name]? = some report ∧ report.coverage = f.coverage ∧
        1 ≤ report.anchorLine ∧ report.anchorLine ≤ (SourceInfo.ofContent content).lineCount ∧
        ∃ row, (rows (listing report (Text.Utf8.decodeLossy content)).toList)[report.anchorLine - 1]? =
            some row ∧
          ("name=\"L" ++ toString report.anchorLine ++ "\"").toList <:+: row ∧
          ((∃ (i h : Nat), f.coverage[i]? = some (some h) ∧ 0 < h) →
            "<tr class=\"success\">".toList <+: row) ∧
          ((¬ ∃ (i h : Nat), f.coverage[i]? = some (some h) ∧ 0 < h) →
            "<tr class=\"error\">".toList <+: row) := by
  refine ⟨fun f content => ?_, ?_⟩
  · rw [(listing_rows f _).1, lines_decodeLossy]
    rfl
  · intro root dirs ds probe out f content s p done member probed inside current
    obtain ⟨distinct, relevant⟩ := finished_files done
    obtain ⟨i, h, entry⟩ := relevant f member
    obtain ⟨report, found, same⟩ :=
      Rollup.build_coverage p (current ▸ distinct) (current ▸ member)
    rw [← same] at entry inside ⊢
    exact ⟨report, found, rfl, listing_anchor_row report content entry inside⟩

/-- One dump that ran the second line of a two-line file three times: the report opens the
file's listing at that line, whose row is marked a success. -/
theorem anchored_listing_of_one_run :
    let content : List UInt8 := [120, 10, 121]
    let probe : Probe := fun _ => .ok (some (SourceInfo.ofContent content))
    let ds : List Dump := [(∅ : Dump).insert "/w/src/a.c" { lines := [⟨2, 3, false⟩] }]
    let f : SourceFile := ⟨"src/a.c", (SourceInfo.ofContent content).digest, [none, some 3]⟩
    (ds.foldl Accumulator.add (.empty "/w" (RelevantDirs.parse "src"))).finish probe = .ok [f] ∧
      ∃ report, (Rollup.build { sourceFiles := [f] } none).files[f.name]? = some report ∧
        report.anchorLine = 2 ∧
        ∃ row, (rows (listing report (Text.Utf8.decodeLossy content)).toList)[1]? = some row ∧
          "<tr class=\"success\">".toList <+: row := by
  intro content probe ds f
  have done : (ds.foldl Accumulator.add (.empty "/w" (RelevantDirs.parse "src"))).finish probe =
      .ok [f] := rfl
  have inside : ∀ i h, f.coverage[i]? = some (some h) → i < (SourceInfo.ofContent content).lineCount := by
    intro i h entry
    rcases i with _ | _ | i <;> simp_all [f, content, SourceInfo.ofContent, lineCountOf]
  obtain ⟨report, found, same, -, -, row, atRow, -, success, -⟩ :=
    listings_match_probed_lines.2 "/w" (RelevantDirs.parse "src") ds probe [f] f content
      { sourceFiles := [f] } none done List.mem_cons_self rfl inside rfl
  have anchor : report.anchorLine = 2 := by
    unfold FileReport.anchorLine
    rw [same]
    rfl
  rw [anchor] at atRow
  exact ⟨done, report, found, anchor, row, atRow, success ⟨1, 3, rfl, by decide⟩⟩

end LineCoverage.Report
