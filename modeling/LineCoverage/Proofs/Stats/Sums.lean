import LineCoverage.Stats.Basic
import Mathlib
/-! Sums of stats.

Stats add column by column and the hits stop at `countLimit`, so a sum of many stats is the
plain sum of each line counter beside the sum of the hits capped once (`Stats.sum_eq`). The
order of the terms and the way they are grouped first play no part: a directory's files and
the whole snapshot's files may be folded in any arrangement and agree. Counting a coverage
vector is additive in the same way: the stats of vectors one after the other are the sum of
their stats, though one caps the hits entry by entry and the other caps whole totals.

Stats counted from a coverage vector keep the covered lines among the relevant ones and the
relevant lines among all lines, and every sum keeps that order (`Stats.Ordered`). That is what
makes the missed lines, a subtraction, safe to compute on any sum, and a sum of ordered stats
checked for overflow only needs its lines to fit.
-/

set_option autoImplicit false

namespace LineCoverage

attribute [ext] Stats

@[simp] theorem Stats.add_totalLines (a b : Stats) :
    (a + b).totalLines = a.totalLines + b.totalLines := rfl

@[simp] theorem Stats.add_relevantLines (a b : Stats) :
    (a + b).relevantLines = a.relevantLines + b.relevantLines := rfl

@[simp] theorem Stats.add_coveredLines (a b : Stats) :
    (a + b).coveredLines = a.coveredLines + b.coveredLines := rfl

@[simp] theorem Stats.add_totalHits (a b : Stats) :
    (a + b).totalHits = addHits a.totalHits b.totalHits := rfl

/-! ## The sum of many stats -/

theorem Stats.sum_append_singleton (xs : List Stats) (x : Stats) :
    Stats.sum (xs ++ [x]) = Stats.sum xs + x := by
  simp only [Stats.sum, List.foldl_append, List.foldl_cons, List.foldl_nil]

/-- A sum of stats adds each line counter and caps the sum of the hits once. -/
theorem Stats.sum_eq (xs : List Stats) :
    Stats.sum xs =
      { totalLines := (xs.map (·.totalLines)).sum
        relevantLines := (xs.map (·.relevantLines)).sum
        coveredLines := (xs.map (·.coveredLines)).sum
        totalHits := min (xs.map (·.totalHits)).sum countLimit } := by
  induction xs using List.reverseRecOn with
  | nil => simp [Stats.sum]
  | append_singleton xs x ih =>
    rw [Stats.sum_append_singleton, ih]
    -- capping the running hits before adding more caps the same total
    ext <;> simp [addHits]
    omega

theorem Stats.sum_totalHits_le (xs : List Stats) : (Stats.sum xs).totalHits ≤ countLimit := by
  rw [Stats.sum_eq]
  exact Nat.min_le_right _ _

theorem Stats.sum_append (xs ys : List Stats) :
    Stats.sum (xs ++ ys) = Stats.sum xs + Stats.sum ys := by
  rw [Stats.sum_eq, Stats.sum_eq, Stats.sum_eq]
  ext <;> simp [addHits]
  omega

/-- Adding the empty stats to a sum changes nothing, since a sum's hits are already capped. -/
theorem Stats.sum_add_empty (xs : List Stats) : Stats.sum xs + {} = Stats.sum xs := by
  have capped := Stats.sum_totalHits_le xs
  ext <;> simp [addHits]
  omega

theorem Stats.sum_perm {xs ys : List Stats} (perm : xs.Perm ys) : Stats.sum xs = Stats.sum ys := by
  simp only [Stats.sum_eq, (perm.map _).sum_nat]

theorem Stats.sum_map_sum (groups : List (List Stats)) :
    Stats.sum (groups.map Stats.sum) = Stats.sum groups.flatten := by
  induction groups using List.reverseRecOn with
  | nil => rfl
  | append_singleton groups g ih =>
    rw [List.map_append, List.map_singleton, Stats.sum_append_singleton, ih, List.flatten_append,
      List.flatten_singleton, Stats.sum_append]

theorem Stats.sum_map_filter {α : Type} (xs : List α) (s : α → Stats) (keep : α → Bool)
    (dropped : ∀ x ∈ xs, keep x = false → s x = {}) :
    Stats.sum ((xs.filter keep).map s) = Stats.sum (xs.map s) := by
  induction xs using List.reverseRecOn with
  | nil => rfl
  | append_singleton xs x ih =>
    have rest : ∀ y ∈ xs, keep y = false → s y = {} := fun y member =>
      dropped y (List.mem_append_left _ member)
    rw [List.filter_append, List.map_append, List.map_append, List.map_singleton,
      Stats.sum_append_singleton, ← ih rest]
    cases kept : keep x
    · rw [dropped x (by simp) kept]
      simp [kept, Stats.sum_add_empty]
    · simp [kept, Stats.sum_append_singleton]

/-! ## Stats of a coverage vector -/

theorem Stats.foldl_count (cov : List (Option Nat)) (s : Stats) (capped : s.totalHits ≤ countLimit) :
    cov.foldl Stats.count s =
      { totalLines := s.totalLines
        relevantLines := s.relevantLines + cov.countP Option.isSome
        coveredLines := s.coveredLines + cov.countP (·.any (0 < ·))
        totalHits := min (s.totalHits + (cov.map (·.getD 0)).sum) countLimit } := by
  induction cov generalizing s with
  | nil => ext <;> simp [Nat.min_eq_left capped]
  | cons c rest ih =>
    cases c with
    | none =>
      rw [List.foldl_cons, Stats.count, ih s capped]
      ext <;> simp
    | some h =>
      have next : (s.count (some h)).totalHits ≤ countLimit := Nat.min_le_right _ _
      rw [List.foldl_cons, ih _ next]
      ext
      case totalLines => rfl
      case relevantLines => simp [Stats.count]; omega
      case coveredLines =>
        by_cases positive : 0 < h
        · simp [Stats.count, positive]
          omega
        · simp [Stats.count, positive]
      case totalHits => simp [Stats.count, addHits]; omega

theorem Stats.ofCoverage_eq (cov : List (Option Nat)) :
    Stats.ofCoverage cov =
      { totalLines := cov.length
        relevantLines := cov.countP Option.isSome
        coveredLines := cov.countP (·.any (0 < ·))
        totalHits := min (cov.map (·.getD 0)).sum countLimit } := by
  rw [Stats.ofCoverage, Stats.foldl_count _ _ (Nat.zero_le _)]
  simp

@[simp] theorem Stats.ofCoverage_totalLines (cov : List (Option Nat)) :
    (Stats.ofCoverage cov).totalLines = cov.length := by
  rw [Stats.ofCoverage_eq]

/-! ## Stats of coverage vectors add up -/

theorem Stats.add_assoc (x y z : Stats) : x + y + z = x + (y + z) := by
  -- capping the hits before the last addition caps the same total, on either side
  ext <;> simp [addHits] <;> omega

theorem Stats.add_comm (x y : Stats) : x + y = y + x := by
  ext <;> simp [addHits] <;> omega

theorem Stats.add_empty {x : Stats} (capped : x.totalHits ≤ countLimit) : x + {} = x := by
  ext <;> simp [addHits, capped]

theorem Stats.empty_add {x : Stats} (capped : x.totalHits ≤ countLimit) : {} + x = x := by
  rw [Stats.add_comm, Stats.add_empty capped]

theorem Stats.ofCoverage_nil : Stats.ofCoverage [] = {} := rfl

/-- The stats of two vectors one after the other are the sum of their stats: the hits capped
entry by entry come to the same capped total. -/
theorem Stats.ofCoverage_append (a b : List (Option Nat)) :
    Stats.ofCoverage (a ++ b) = Stats.ofCoverage a + Stats.ofCoverage b := by
  rw [Stats.ofCoverage_eq, Stats.ofCoverage_eq, Stats.ofCoverage_eq]
  ext
  case totalHits => simp [addHits]; omega
  all_goals simp [List.countP_append]

theorem Stats.sum_map_ofCoverage (vs : List (List (Option Nat))) :
    Stats.sum (vs.map Stats.ofCoverage) = Stats.ofCoverage vs.flatten := by
  induction vs using List.reverseRecOn with
  | nil => rfl
  | append_singleton vs v ih =>
    rw [List.map_append, List.map_singleton, Stats.sum_append_singleton, ih, List.flatten_append,
      List.flatten_singleton, Stats.ofCoverage_append]

/-- Counting coverage is additive: the empty vector has the empty stats, a concatenation has the
sum of the stats of its parts, stats add associatively and commutatively with the empty stats
as identity on stats whose hits are in range, and so the stats of many vectors, summed in any
order, are the stats of all of them one after the other. -/
theorem Stats.ofCoverage_additive :
    Stats.ofCoverage [] = {} ∧
      (∀ a b, Stats.ofCoverage (a ++ b) = Stats.ofCoverage a + Stats.ofCoverage b) ∧
      (∀ x y z : Stats, x + y + z = x + (y + z)) ∧ (∀ x y : Stats, x + y = y + x) ∧
      (∀ x : Stats, x.totalHits ≤ countLimit → x + {} = x ∧ {} + x = x) ∧
      ∀ vs ws : List (List (Option Nat)), ws.Perm vs →
        Stats.sum (ws.map Stats.ofCoverage) = Stats.ofCoverage vs.flatten := by
  refine ⟨Stats.ofCoverage_nil, Stats.ofCoverage_append, Stats.add_assoc, Stats.add_comm,
    fun x capped => ⟨Stats.add_empty capped, Stats.empty_add capped⟩, ?_⟩
  intro vs ws perm
  rw [Stats.sum_perm (perm.map Stats.ofCoverage), Stats.sum_map_ofCoverage]

theorem Stats.sum_of_vectors_swapped :
    [[some 1, some 1], [some 0, some 0]].Perm [[some 0, some 0], [some 1, some 1]] ∧
      Stats.sum ([[some 1, some 1], [some 0, some 0]].map Stats.ofCoverage) =
        Stats.ofCoverage [some 0, some 0, some 1, some 1] :=
  ⟨by decide, Stats.ofCoverage_additive.2.2.2.2.2 [[some 0, some 0], [some 1, some 1]]
    [[some 1, some 1], [some 0, some 0]] (by decide)⟩

/-! ## Covered, relevant and all lines stay in order -/

structure Stats.Ordered (s : Stats) : Prop where
  covered_le : s.coveredLines ≤ s.relevantLines
  relevant_le : s.relevantLines ≤ s.totalLines

theorem Stats.ordered_empty : ({} : Stats).Ordered := ⟨Nat.le_refl 0, Nat.le_refl 0⟩

theorem Stats.Ordered.add {a b : Stats} (ha : a.Ordered) (hb : b.Ordered) : (a + b).Ordered :=
  ⟨Nat.add_le_add ha.covered_le hb.covered_le, Nat.add_le_add ha.relevant_le hb.relevant_le⟩

theorem Stats.ordered_ofCoverage (cov : List (Option Nat)) : (Stats.ofCoverage cov).Ordered := by
  rw [Stats.ofCoverage_eq]
  constructor
  · -- a positive count is a count
    apply List.countP_mono_left
    intro c _ positive
    cases c <;> simp_all
  · exact List.countP_le_length

theorem Stats.ordered_sum {xs : List Stats} (ordered : ∀ x ∈ xs, x.Ordered) :
    (Stats.sum xs).Ordered := by
  induction xs using List.reverseRecOn with
  | nil => exact Stats.ordered_empty
  | append_singleton xs x ih =>
    rw [Stats.sum_append_singleton]
    exact (ih fun y member => ordered y (List.mem_append_left _ member)).add (ordered x (by simp))

/-! ## Counters checked for overflow and underflow -/

theorem Stats.missedChecked_of_ordered {s : Stats} (ordered : s.Ordered) :
    s.missedChecked = .ok s.missedLines := by
  simp [Stats.missedChecked, ordered.covered_le]

theorem Stats.addChecked_of_fits {a b : Stats} (ha : a.Ordered) (hb : b.Ordered)
    (fits : a.totalLines + b.totalLines ≤ countLimit) : a.addChecked b = .ok (a + b) := by
  have relevant : a.relevantLines + b.relevantLines ≤ countLimit := by
    have := ha.relevant_le; have := hb.relevant_le; omega
  have covered : a.coveredLines + b.coveredLines ≤ countLimit := by
    have := ha.covered_le; have := hb.covered_le; omega
  simp [Stats.addChecked, fits, relevant, covered]

theorem Stats.foldlM_addChecked (xs : List Stats) (acc : Stats) (ordered : ∀ x ∈ xs, x.Ordered)
    (start : acc.Ordered) (fits : acc.totalLines + (xs.map (·.totalLines)).sum ≤ countLimit) :
    xs.foldlM Stats.addChecked acc = .ok (xs.foldl (· + ·) acc) := by
  induction xs generalizing acc with
  | nil => rfl
  | cons x rest ih =>
    have hx : x.Ordered := ordered x (by simp)
    simp only [List.map_cons, List.sum_cons] at fits
    have step : acc.addChecked x = .ok (acc + x) := Stats.addChecked_of_fits start hx (by omega)
    have more : (acc + x).totalLines + (rest.map (·.totalLines)).sum ≤ countLimit := by
      simp only [Stats.add_totalLines]
      omega
    rw [List.foldlM_cons, step, List.foldl_cons]
    exact ih (acc + x) (fun y member => ordered y (List.mem_cons_of_mem _ member)) (start.add hx) more

end LineCoverage
