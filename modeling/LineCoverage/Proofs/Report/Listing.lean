import LineCoverage.Proofs.Report.Index
import Std.Data.String.ToNat
/-! The rows of a listing page.

A listing has one row per line of its text, read as `Text.lines` reads it, and the row of
line `i` is anchored as `L<i>`. Its class says whether the line ran (`success`), is relevant
and never ran (`error`), or is neither, which is also the class of a line past the end of the
coverage. A line that ran shows its count in a cell of its own, and that cell is found in no
other row: the count sign `&times;` can stand in a row only there, since every `&` of escaped
text starts an entity of its own.
-/

set_option autoImplicit false

namespace LineCoverage.Report

theorem rows_listingRow_append (coverage : List (Option Nat)) (idx : Nat) (code : String)
    (b : List Char) :
    rows ((listingRow coverage idx code).toList ++ b) =
      (listingRow coverage idx code).toList.dropLast :: rows b := by
  unfold listingRow
  simp only [toString]
  -- a line without hits, a relevant line never run, a line run at least once
  split <;> simp only [String.toList_append, List.append_assoc, String.toList_empty,
    List.nil_append] <;> repeat rw [String.toList_ofList]
  all_goals
    simp (disch := decide +kernel) only [rows_markup_append, rows_open_markup_append,
      rowText_markup_append, rowText_close_markup_append, rowText_of_prefix,
      rowText_cons_of_not_prefix,
      rows_plain_append _ (lt_not_mem_escape _), rowText_plain_append _ (lt_not_mem_escape _),
      rows_plain_append _ (lt_not_mem_repr _), rowText_plain_append _ (lt_not_mem_repr _)]
    simp only [rowClose, List.cons_append, List.nil_append, List.dropLast_append_cons,
      List.dropLast_singleton, List.dropLast_cons_of_ne_nil, ne_eq, List.append_eq_nil_iff,
      reduceCtorEq, and_false, not_false_eq_true]

theorem rows_listing (f : FileReport) (content : String) :
    rows (listing f content).toList =
      (Text.lines content).zipIdx.map fun line =>
        (listingRow f.coverage line.2 line.1).toList.dropLast := by
  have lines : ∀ b, rows ((String.join ((Text.lines content).zipIdx.map fun line =>
      listingRow f.coverage line.2 line.1)).toList ++ b) =
      ((Text.lines content).zipIdx.map fun line =>
        (listingRow f.coverage line.2 line.1).toList.dropLast) ++ rows b := by
    intro b
    rw [String.toList_join, List.flatMap_map, List.map_eq_flatMap]
    apply rows_flatMap_append
    rintro ⟨code, idx⟩ _ b
    exact rows_listingRow_append f.coverage idx code b
  have title : '<' ∉ (escape f.name ++ " &mdash; Coverage").toList := by
    rw [String.toList_append, List.mem_append, not_or]
    exact ⟨lt_not_mem_escape _, by decide⟩
  rw [← List.append_nil (listing f content).toList]
  unfold listing
  simp only [toString, String.toList_append, List.append_assoc]
  repeat rw [String.toList_ofList]
  simp (disch := decide +kernel) only [rows_markup_append, rows_nil, lines,
    rows_pageHead_append _ title, rows_plain_append _ (lt_not_mem_escape _)]
  exact List.append_nil _

/-! ## What a row of a listing shows -/

theorem listingRow_anchor (coverage : List (Option Nat)) (idx : Nat) (code : String) :
    ("name=\"L" ++ toString (idx + 1) ++ "\"").toList <:+:
      (listingRow coverage idx code).toList.dropLast := by
  unfold listingRow
  simp only [toString]
  split <;> simp only [String.toList_append, List.append_assoc, String.toList_empty,
    List.nil_append] <;> repeat rw [String.toList_ofList]
  -- the anchor follows the opening of the row's first cell, whatever the row's class
  all_goals
    simp +decide only [List.cons_append, List.nil_append, List.dropLast_append_cons,
      List.dropLast_singleton, List.dropLast_cons_of_ne_nil, ne_eq, List.append_eq_nil_iff,
      reduceCtorEq, and_false, not_false_eq_true, List.infix_cons_iff, List.cons_prefix_cons,
      List.prefix_append_right_inj, List.nil_prefix, true_and, and_true, true_or, or_true]

/-- A row is marked a success when its line ran, an error when it is relevant and never ran,
and not at all when it is not relevant or lies past the coverage. -/
theorem listingRow_class (coverage : List (Option Nat)) (idx : Nat) (code : String) :
    let row := (listingRow coverage idx code).toList.dropLast
    ("<tr class=\"success\">".toList <+: row ↔ ∃ n, 0 < n ∧ coverage[idx]? = some (some n)) ∧
    ("<tr class=\"error\">".toList <+: row ↔ coverage[idx]? = some (some 0)) ∧
    ("<tr>".toList <+: row ↔ coverage[idx]? = none ∨ coverage[idx]? = some none) := by
  intro row
  rcases h : coverage[idx]? with _ | _ | _ | n <;>
    simp only [row, listingRow, toString, h, Option.getD_none, Option.getD_some] <;>
    simp only [String.toList_append, List.append_assoc, String.toList_empty,
      List.nil_append] <;> repeat rw [String.toList_ofList]
  -- the prefix tests are decided character by character
  all_goals simp +decide [List.dropLast_cons_of_ne_nil]

/-! ## The count of a line -/

section Occurrence

variable {pat : List Char}

theorem Free.eq_of_append {s x t z : List Char} (fs : Free pat s)
    (fx : Free pat x) (h : s ++ pat ++ t = x ++ pat ++ z) : s = x := by
  simp only [List.append_assoc] at h
  induction s generalizing x with
  | nil =>
    cases x with
    | nil => rfl
    | cons c x' =>
      exact absurd (h ▸ List.prefix_append pat t) (fx.not_prefix_append (pat ++ z))
  | cons d s' ih =>
    cases x with
    | nil => exact absurd (h.symm ▸ List.prefix_append pat z) (fs.not_prefix_append (pat ++ t))
    | cons c x' =>
      obtain ⟨rfl, rest⟩ := List.cons.inj h
      rw [ih (free_cons.mp fs).2.2 (free_cons.mp fx).2.2 rest]

/-- In a text where a pattern that cannot overlap itself occurs once, every occurrence is
that one. -/
theorem Free.eq_of_occurrence (ne : pat ≠ []) (self : Free pat pat.tail) {s t x z : List Char}
    (fx : Free pat x) (fz : Free pat z) (h : s ++ pat ++ t = x ++ pat ++ z) : s = x ∧ t = z := by
  simp only [List.append_assoc] at h
  induction x generalizing s with
  | nil =>
    cases s with
    | nil => exact ⟨rfl, List.append_cancel_left h⟩
    | cons d s' =>
      -- a later occurrence would start inside the pattern or after it
      obtain ⟨p, ps, rfl⟩ := List.exists_cons_of_ne_nil ne
      have later : p :: ps <:+: ps ++ z := ⟨s', t, by simpa using (List.cons.inj h).2⟩
      exact absurd later (Free.not_infix ne (self.append fz))
  | cons c x' ih =>
    cases s with
    | nil => exact absurd (h ▸ List.prefix_append pat t) (fx.not_prefix_append (pat ++ z))
    | cons d s' =>
      obtain ⟨rfl, rest⟩ := List.cons.inj h
      obtain ⟨same, after⟩ := ih (free_cons.mp fx).2.2 rest
      exact ⟨same ▸ rfl, after⟩

end Occurrence

def hitsCell (lineno n : Nat) : List Char :=
  ("<td><a href=\"#L" ++ toString lineno ++ "\">" ++ toString n ++ "&times;</a></td>").toList

/-- The sign after a count, which escaped text cannot hold. -/
def timesSign : List Char := ['&', 't', 'i', 'm', 'e', 's', ';']

theorem not_mem_repr_of_not_digit {c : Char} (h : c.isDigit = false) (n : Nat) :
    c ∉ n.repr.toList := by
  rw [Nat.toList_repr]
  intro mem
  rw [Nat.isDigit_of_mem_toDigits (by decide) (by decide) mem] at h
  cases h

theorem free_timesSign_escape (s : String) : Free timesSign (escape s).toList := by
  rw [escape_toList]
  apply Free.flatMap
  intro c _
  unfold escapeChar
  split
  -- the four entities are markup that holds no sign; any other character is not its `&`
  case h_5 notAmp _ _ _ => exact free_of_not_mem rfl (by simpa [eq_comm] using notAmp)
  all_goals rw [String.toList_ofList]; decide

theorem free_timesSign_repr (n : Nat) : Free timesSign n.repr.toList :=
  free_of_not_mem rfl (not_mem_repr_of_not_digit rfl n)

theorem free_timesSign_count (m : Nat) : Free timesSign ('>' :: m.repr.toList) :=
  free_of_not_mem rfl (List.not_mem_cons_of_ne_of_not_mem (by decide) (not_mem_repr_of_not_digit rfl m))

theorem listingRow_of_count {coverage : List (Option Nat)} {idx : Nat} {n : Nat} (code : String)
    (h : coverage[idx]? = some (some n)) (pos : 0 < n) :
    (listingRow coverage idx code).toList.dropLast =
      ("<tr class=\"success\"><td><a name=\"L" ++ toString (idx + 1) ++ "\"></a><a href=\"#L" ++
        toString (idx + 1) ++ "\">" ++ toString (idx + 1) ++ "</a></td><td><a href=\"#L" ++
        toString (idx + 1) ++ "\"><pre>" ++ escape code ++ "</pre></a></td>").toList ++
        hitsCell (idx + 1) n ++ "</tr>".toList := by
  obtain ⟨m, rfl⟩ := Nat.exists_eq_add_one_of_ne_zero (Nat.pos_iff_ne_zero.mp pos)
  unfold listingRow hitsCell
  simp only [toString, h, Option.getD_some, String.toList_append, List.append_assoc]
  repeat rw [String.toList_ofList]
  simp only [List.cons_append, List.nil_append, List.dropLast_append_cons,
    List.dropLast_singleton, List.dropLast_cons_of_ne_nil, ne_eq, List.append_eq_nil_iff,
    reduceCtorEq, and_false, not_false_eq_true]

theorem hitsCell_split (lineno n : Nat) :
    hitsCell lineno n = (("<td><a href=\"#L" ++ toString lineno ++ "\"").toList ++
      '>' :: n.repr.toList) ++ timesSign ++ "</a></td>".toList := by
  unfold hitsCell timesSign
  simp only [toString, String.toList_append, List.append_assoc]
  repeat rw [String.toList_ofList]
  simp only [List.cons_append, List.nil_append]

theorem eq_of_repr_suffix {a b : List Char} {n m : Nat}
    (h : a ++ '>' :: n.repr.toList = b ++ '>' :: m.repr.toList) : n = m := by
  have plain : ∀ k : Nat, Free ['>'] k.repr.toList.reverse := fun k =>
    free_of_not_mem rfl (by rw [List.mem_reverse]; exact not_mem_repr_of_not_digit rfl k)
  have flipped : n.repr.toList.reverse ++ ['>'] ++ a.reverse =
      m.repr.toList.reverse ++ ['>'] ++ b.reverse := by
    simpa using congrArg List.reverse h
  have digits := Free.eq_of_append (plain n) (plain m) flipped
  rwa [List.reverse_inj, String.toList_inj, Nat.repr_inj] at digits

/-- Where one cell with a count stands inside a text that holds the count sign only in another
cell with a count, the two counts agree. -/
theorem eq_count_of_cell {s t r h e u : List Char} {n m : Nat}
    (before : Free timesSign (r ++ h ++ '>' :: m.repr.toList)) (after : Free timesSign (e ++ u))
    (eq : s ++ ((h ++ '>' :: n.repr.toList) ++ timesSign ++ e) ++ t =
      r ++ ((h ++ '>' :: m.repr.toList) ++ timesSign ++ e) ++ u) : n = m := by
  have aligned := Free.eq_of_occurrence (by decide) (by decide) before after
    (s := s ++ h ++ '>' :: n.repr.toList) (t := e ++ t) (by simpa only [List.append_assoc] using eq)
  exact eq_of_repr_suffix (a := s ++ h) (b := r ++ h) (by simpa only [List.append_assoc] using aligned.1)

theorem free_listingRow_of_uncounted {coverage : List (Option Nat)} {idx : Nat} (code : String)
    (uncounted : ¬ ∃ n, 0 < n ∧ coverage[idx]? = some (some n)) :
    Free timesSign (listingRow coverage idx code).toList := by
  unfold listingRow
  simp only [toString]
  split
  case h_3 =>
    rename_i n positive heq
    refine absurd ⟨n, Nat.pos_of_ne_zero positive, ?_⟩ uncounted
    cases h : coverage[idx]? <;> simp_all
  all_goals
    simp only [String.toList_append]
    repeat' with_reducible apply Free.append
  -- each piece is a number, an escaped text or markup without the sign
  all_goals simp +decide only [free_timesSign_repr, free_timesSign_escape]

theorem listingRow_hits (coverage : List (Option Nat)) (idx : Nat) (code : String) (n : Nat) :
    hitsCell (idx + 1) n <:+: (listingRow coverage idx code).toList.dropLast ↔
      0 < n ∧ coverage[idx]? = some (some n) := by
  constructor
  · intro cell
    by_cases counted : ∃ m, 0 < m ∧ coverage[idx]? = some (some m)
    · obtain ⟨m, pos, h⟩ := counted
      obtain ⟨s, t, eq⟩ := cell
      rw [listingRow_of_count code h pos, hitsCell_split, hitsCell_split] at eq
      -- the count sign occurs once in the row, so the two cells line up at it
      have same := eq_count_of_cell ?before ?after eq
      case before =>
        simp only [toString, String.toList_append]
        repeat' with_reducible apply Free.append
        all_goals simp +decide only [free_timesSign_repr, free_timesSign_escape, free_timesSign_count]
      case after =>
        repeat rw [String.toList_ofList]
        decide
      exact ⟨same ▸ pos, same ▸ h⟩
    · have sign : timesSign <:+: (listingRow coverage idx code).toList := by
        refine List.IsInfix.trans ?_ (cell.trans (List.dropLast_prefix _).isInfix)
        rw [hitsCell_split]
        exact ⟨_, _, rfl⟩
      exact absurd sign (Free.not_infix (by decide) (free_listingRow_of_uncounted code counted))
  · rintro ⟨pos, h⟩
    rw [listingRow_of_count code h pos]
    exact ⟨_, "</tr>".toList, rfl⟩

/-! ## The rows of a listing -/

theorem listing_rows (f : FileReport) (content : String) :
    let page := rows (listing f content).toList
    page.length = (Text.lines content).length ∧
    ∀ i row, page[i]? = some row →
      ("name=\"L" ++ toString (i + 1) ++ "\"").toList <:+: row ∧
      ("<tr class=\"success\">".toList <+: row ↔ ∃ n, 0 < n ∧ f.coverage[i]? = some (some n)) ∧
      ("<tr class=\"error\">".toList <+: row ↔ f.coverage[i]? = some (some 0)) ∧
      ("<tr>".toList <+: row ↔ f.coverage[i]? = none ∨ f.coverage[i]? = some none) ∧
      ∀ n, hitsCell (i + 1) n <:+: row ↔ 0 < n ∧ f.coverage[i]? = some (some n) := by
  intro page
  refine ⟨by simp only [page, rows_listing, List.length_map, List.length_zipIdx], ?_⟩
  intro i row found
  simp only [page, rows_listing, List.getElem?_map, List.getElem?_zipIdx, Option.map_map,
    Nat.zero_add, Function.comp_def] at found
  obtain ⟨code, -, rfl⟩ := Option.map_eq_some_iff.mp found
  obtain ⟨success, error, plain⟩ := listingRow_class f.coverage i code
  exact ⟨listingRow_anchor f.coverage i code, success, error, plain,
    listingRow_hits f.coverage i code⟩

end LineCoverage.Report
