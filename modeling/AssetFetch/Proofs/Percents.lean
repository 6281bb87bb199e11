/-
**Counts become percents, and each percent is reported once.**

* `percentage_eq_iff`: the percent of a count is the nearest whole one, a half rounded up;
* `cons_percents_reports`: the percents reported are those of the counts, one after the other,
  where one that equals the percent before it is left out;
* `deltas_reports`, `sum_deltas_reports`, `delta_pos`: what is reported beside a percent is its
  difference to the one before;
* `PercentTracker.feed`, `attempt_feed`: counts told to a display of percents, one after the other;
* `counts_reported_in_percents`: what a display is told of counts that do not fall.
-/

import AssetFetch.Proofs.Progress
import AssetFetch.Proofs.Runs
import Mathlib.Data.List.Destutter
import Mathlib.Tactic.Linarith

namespace AssetFetch

/-! ### The nearest whole percent -/

section Rounding

variable {read total : Nat} {percent : Int}

/-- **The percent of a count** is the only whole number within half a percent of it, the lower end
of that stretch included. -/
theorem percentage_eq_iff (positive : 0 < total) :
    percent = percentage read total
      ↔ (2 * percent - 1) * total ≤ 200 * read ∧ 200 * read < (2 * percent + 1) * total := by
  have divisor : (0 : Int) < 2 * total := by omega
  have quotient : percentage read total = (read * 200 + total : Int) / (2 * total) := by
    rw [percentage_of_pos positive, Int.natCast_ediv]
    push_cast
    rfl
  have lower : percent ≤ (read * 200 + total : Int) / (2 * total)
      ↔ (2 * percent - 1) * total ≤ 200 * read := by
    rw [Int.le_ediv_iff_mul_le divisor]
    constructor <;> intro within <;> linarith
  have upper : (read * 200 + total : Int) / (2 * total) < percent + 1
      ↔ 200 * read < (2 * percent + 1) * total := by
    rw [Int.ediv_lt_iff_lt_mul divisor]
    constructor <;> intro within <;> linarith
  rw [quotient, ← lower, ← upper]
  omega

theorem percentage_self (positive : 0 < total) : percentage total total = 100 :=
  ((percentage_eq_iff positive).mpr ⟨by omega, by omega⟩).symm

end Rounding

namespace PercentTracker

/-! ### The reports of counts -/

section Reports

variable {tracker : PercentTracker} {total : Nat} {counts : List Nat}

/-- The percents of counts. -/
def percents (total : Nat) (counts : List Nat) : List Int :=
  counts.map fun (read : Nat) => percentage read total

theorem reports_cons (tracker : PercentTracker) (total read : Nat) (rest : List Nat) :
    tracker.reports total (read :: rest)
      = if percentage read total = tracker.last then tracker.reports total rest
        else ⟨percentage read total, percentage read total - tracker.last⟩
          :: reports total ⟨percentage read total⟩ rest := by
  simp only [reports, step, beq_iff_eq]
  split
  · rfl
  · rfl

theorem after_cons (tracker : PercentTracker) (total read : Nat) (rest : List Nat) :
    tracker.after total (read :: rest)
      = if percentage read total = tracker.last then tracker.after total rest
        else after total ⟨percentage read total⟩ rest := by
  have stepped : tracker.after total (read :: rest)
      = (tracker.step read total).2.after total rest := rfl
  rw [stepped]
  simp only [step, beq_iff_eq]
  split
  · rfl
  · rfl

/-- **The percents reported** are those of the counts without the ones that repeat the percent
before. -/
theorem cons_percents_reports (tracker : PercentTracker) (total : Nat) (counts : List Nat) :
    tracker.last :: (tracker.reports total counts).map Report.percent
      = (percents total counts).destutter' (· ≠ ·) tracker.last := by
  induction counts generalizing tracker with
  | nil => rfl
  | cons read rest ih =>
    rw [reports_cons]
    unfold percents
    rw [List.map_cons]
    by_cases same : percentage read total = tracker.last
    · rw [if_pos same, List.destutter'_cons_neg _ (by simpa using same.symm)]
      exact ih tracker
    · rw [if_neg same, List.destutter'_cons_pos _ (Ne.symm same), List.map_cons]
      exact congrArg _ (ih ⟨percentage read total⟩)

/-- What is reported beside the percents are their differences. -/
theorem deltas_reports (tracker : PercentTracker) (total : Nat) (counts : List Nat) :
    (tracker.reports total counts).map Report.delta
      = List.zipWith (· - ·) ((tracker.reports total counts).map Report.percent)
          (tracker.last :: (tracker.reports total counts).map Report.percent) := by
  induction counts generalizing tracker with
  | nil => rfl
  | cons read rest ih =>
    rw [reports_cons]
    split
    · exact ih tracker
    · exact congrArg _ (ih ⟨percentage read total⟩)

/-- The differences add up to how far the percent has come. -/
theorem sum_deltas_reports (tracker : PercentTracker) (total : Nat) (counts : List Nat) :
    ((tracker.reports total counts).map Report.delta).sum
      = (tracker.after total counts).last - tracker.last := by
  induction counts generalizing tracker with
  | nil => exact (Int.sub_self _).symm
  | cons read rest ih =>
    rw [reports_cons, after_cons]
    split
    · exact ih tracker
    · rw [List.map_cons, List.sum_cons, ih]
      exact (Int.add_comm _ _).trans (sub_add_sub_cancel _ _ _)

/-- Counts whose percents do not fall give rise to differences above zero. -/
theorem delta_pos (sorted : (percents total counts).Pairwise (· ≤ ·))
    (above : ∀ percent ∈ percents total counts, tracker.last ≤ percent) :
    ∀ report ∈ tracker.reports total counts, 0 < report.delta := by
  induction counts generalizing tracker with
  | nil => exact fun _ member => absurd member List.not_mem_nil
  | cons read rest ih =>
    obtain ⟨first, others⟩ := List.pairwise_cons.mp sorted
    have here : tracker.last ≤ percentage read total := above _ List.mem_cons_self
    rw [reports_cons]
    split
    · exact ih others fun percent member => above percent (List.mem_cons_of_mem _ member)
    · rename_i new
      intro report member
      rcases List.mem_cons.mp member with rfl | later
      · show 0 < percentage read total - tracker.last
        omega
      · have behind : report ∈ (PercentTracker.mk (percentage read total)).reports total rest :=
          later
        exact ih others first report behind

end Reports

/-! ### Counts that do not fall -/

section Growing

variable {total : Nat} {counts : List Nat}

theorem percents_sorted (growing : counts.Pairwise (· ≤ ·)) :
    (percents total counts).Pairwise (· ≤ ·) :=
  List.pairwise_map.mpr (growing.imp fun le => percentage_mono total le)

theorem percents_nonneg : ∀ percent ∈ percents total counts, 0 ≤ percent := by
  intro percent member
  obtain ⟨read, _, rfl⟩ := List.mem_map.mp member
  exact percentage_nonneg read total

/-- Behind a zero, numbers that do not fall lose their zeros and their repetitions. -/
theorem destutter'_zero_of_sorted {numbers : List Int} (sorted : numbers.Pairwise (· ≤ ·))
    (nonneg : ∀ number ∈ numbers, 0 ≤ number) :
    numbers.destutter' (· ≠ ·) 0 = 0 :: (numbers.filter (· ≠ 0)).dedup := by
  have deduped : (numbers.filter (· ≠ 0)).destutter (· ≠ ·) = (numbers.filter (· ≠ 0)).dedup :=
    (sorted.filter _).destutter_eq_dedup
  rw [← deduped]
  clear deduped
  induction numbers with
  | nil => rfl
  | cons first rest ih =>
    obtain ⟨least, others⟩ := List.pairwise_cons.mp sorted
    by_cases zero : first = 0
    · subst zero
      rw [List.destutter'_cons_neg _ (by simp), List.filter_cons_of_neg (by simp)]
      exact ih others fun number member => nonneg number (List.mem_cons_of_mem _ member)
    · -- behind a number above zero no zero comes any more
      have here := nonneg first List.mem_cons_self
      have kept : rest.filter (· ≠ 0) = rest := by
        refine List.filter_eq_self.mpr fun number member => ?_
        have higher := least number member
        simp only [ne_eq, decide_eq_true_eq]
        omega
      rw [List.destutter'_cons_pos _ (Ne.symm zero), List.filter_cons_of_pos (by simpa using zero),
        kept, List.destutter_cons']

/-- **What a display is told of counts**: the percents but zero, each of them once, each with its
difference to the one before; the differences add up to the last percent. Of counts within the
total there are no more than a hundred reports, up to a hundred percent, and that is the last one
when all has come. -/
structure Reported (total : Nat) (counts : List Nat) (reports : List Report) (last : Int) :
    Prop where
  percents : reports.map Report.percent = ((percents total counts).filter (· ≠ 0)).dedup
  rising : reports.Pairwise fun first second => first.percent < second.percent
  differences : reports.map Report.delta
    = List.zipWith (· - ·) (reports.map Report.percent) (0 :: reports.map Report.percent)
  positive : ∀ report ∈ reports, 0 < report.delta
  sum : (reports.map Report.delta).sum = last
  few : 0 < total → (∀ read ∈ counts, read ≤ total) → reports.length ≤ 100
  within : 0 < total → (∀ read ∈ counts, read ≤ total) → ∀ report ∈ reports, report.percent ≤ 100
  whole : 0 < total → (∀ read ∈ counts, read ≤ total) → counts.getLast? = some total →
    reports.getLast?.map Report.percent = some 100

theorem reported_of_growing (total : Nat) (growing : counts.Pairwise (· ≤ ·)) :
    Reported total counts (start.reports total counts) (start.after total counts).last := by
  have sorted : (percents total counts).Pairwise (· ≤ ·) := percents_sorted growing
  have low : ∀ read ∈ counts, start.last ≤ percentage read total := fun read _ =>
    percentage_nonneg read total
  obtain ⟨rising, above⟩ := reports_increase (List.pairwise_map.mp sorted) low
  have within : 0 < total → (∀ read ∈ counts, read ≤ total) →
      ∀ report ∈ start.reports total counts, report.percent ≤ 100 := by
    intro positive inside report member
    obtain ⟨read, here, same⟩ := exists_count_of_mem_reports member
    rw [same]
    exact percentage_le_hundred_iff.mpr (.inr (by have := inside read here; omega))
  refine {
    percents := ?_
    rising
    differences := deltas_reports start total counts
    positive := delta_pos sorted percents_nonneg
    sum := (sum_deltas_reports start total counts).trans (Int.sub_zero _)
    few := fun positive inside => length_le_of_increasing rising above (within positive inside)
    within
    whole := fun positive _ last => ?_ }
  · have split := cons_percents_reports start total counts
    rw [show start.last = 0 from rfl, destutter'_zero_of_sorted sorted percents_nonneg] at split
    exact List.tail_eq_of_cons_eq split
  · -- the percent reported last is that of the total, and it is not zero
    have reported := getLast?_reports start total counts
    rw [last_after, last, Option.map_some, Option.getD_some, percentage_self positive] at reported
    cases ended : (start.reports total counts).getLast? with
    | none =>
      rw [ended] at reported
      cases reported
    | some report =>
      rw [ended] at reported
      exact congrArg some reported

end Growing

/-! ### A display -/

section Display

variable {total : Nat} {counts : List Nat} {world : World}

/-- Tells a display of percents counts, one after the other. -/
def feed (total : Nat) (tracker : PercentTracker) : List Nat → Action PercentTracker
  | [] => return tracker
  | read :: rest => do
    let tracker ← Download.notify .percents read total tracker
    feed total tracker rest

theorem reports_report (percent delta : Int) :
    (world.report percent delta).display.reports = world.display.reports ++ [⟨percent, delta⟩] := by
  obtain ⟨_, _, same⟩ := world.exists_of_report percent delta
  rw [same]

/-- **The display is told the reports that the counts give rise to.** -/
theorem attempt_feed (total : Nat) (tracker : PercentTracker) (counts : List Nat) (world : World) :
    ∃ later, world.attempt (tracker.feed total counts) = (.ok (tracker.after total counts), later)
      ∧ later.display.reports = world.display.reports ++ tracker.reports total counts := by
  induction counts generalizing tracker world with
  | nil => exact ⟨world, rfl, (List.append_nil _).symm⟩
  | cons read rest ih =>
    have stepped : tracker.after total (read :: rest)
        = (tracker.step read total).2.after total rest := rfl
    have listed : tracker.reports total (read :: rest)
        = (tracker.step read total).1.toList ++ (tracker.step read total).2.reports total rest :=
      rfl
    rw [stepped, listed, feed, Download.notify]
    cases took : tracker.step read total with
    | mk report next =>
      cases report with
      | none => exact ih next world
      | some report =>
        obtain ⟨later, fed, shown⟩ := ih next (world.report report.percent report.delta)
        refine ⟨later, fed, shown.trans ?_⟩
        rw [reports_report, List.append_assoc]
        rfl

/-- **Counts that do not fall are reported in whole percents.** The percent of a count is the
nearest one, a half rounded up, and a hundred of nothing; a display that is told the counts is told
each percent but zero once. -/
theorem counts_reported_in_percents (world : World) (total : Nat)
    (growing : counts.Pairwise (· ≤ ·)) :
    (∀ read : Nat, percentage read 0 = 100)
      ∧ (0 < total → ∀ (read : Nat) (percent : Int), percent = percentage read total
        ↔ (2 * percent - 1) * total ≤ 200 * read ∧ 200 * read < (2 * percent + 1) * total)
      ∧ ∃ last later reports, world.attempt (start.feed total counts) = (.ok ⟨last⟩, later)
        ∧ later.display.reports = world.display.reports ++ reports
        ∧ Reported total counts reports last := by
  obtain ⟨later, fed, shown⟩ := attempt_feed total start counts world
  exact ⟨fun _ => rfl, fun positive _ _ => percentage_eq_iff positive, _, later, _, fed, shown,
    reported_of_growing total growing⟩

/-- Counts of two hundred bytes, the first of which is half a percent. -/
theorem counts_reported_in_percents_of_two_hundred :
    [1, 1, 2, 3, 200].Pairwise (· ≤ ·)
      ∧ ∃ last later reports, World.empty.attempt (start.feed 200 [1, 1, 2, 3, 200])
          = (.ok ⟨last⟩, later)
        ∧ later.display.reports = World.empty.display.reports ++ reports
        ∧ Reported 200 [1, 1, 2, 3, 200] reports last :=
  ⟨by decide, (counts_reported_in_percents .empty 200 (by decide)).2.2⟩

end Display

end PercentTracker

end AssetFetch
