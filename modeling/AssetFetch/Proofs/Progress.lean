/-
**Percents of growing counts.**

* `percentage_mono`, `percentage_le_hundred_iff`, `hundred_le_percentage`: where a percent lies;
* `reports_increase`: counts whose percents do not fall give rise to reports whose percents rise;
* `last_after`, `getLast?_reports`: the percent reported last is that of the last count;
* `length_le_of_increasing`: rising percents are no more than there is room for.
-/

import AssetFetch.Proofs.Download.Body

namespace AssetFetch

/-! ### Where a percent lies -/

section Percents

variable {first second read total : Nat}

theorem percentage_zero_total (read : Int) : percentage read 0 = 100 :=
  rfl

theorem percentage_of_pos (positive : 0 < total) :
    percentage read total = ((read * 200 + total) / (2 * total) : Nat) := by
  have nonzero : ((total : Int) == 0) = false := by
    rw [beq_eq_false_iff_ne]
    omega
  have within : (0 : Int) ≤ 2 * total := by omega
  unfold percentage
  rw [nonzero, if_neg Bool.false_ne_true, Int.fdiv_eq_ediv_of_nonneg _ within]
  rw [Int.natCast_ediv]
  congr 1

theorem percentage_nonneg (read total : Nat) : 0 ≤ percentage read total := by
  rcases Nat.eq_zero_or_pos total with rfl | positive
  · exact Int.le_of_lt (by decide : (0 : Int) < 100)
  · rw [percentage_of_pos positive]
    exact Int.natCast_nonneg _

theorem percentage_mono (total : Nat) (le : first ≤ second) :
    percentage first total ≤ percentage second total := by
  rcases Nat.eq_zero_or_pos total with rfl | positive
  · exact Int.le_refl 100
  · rw [percentage_of_pos positive, percentage_of_pos positive, Int.ofNat_le]
    exact Nat.div_le_div_right (by omega)

/-- A percent is within a hundred up to half a percent beyond the total. -/
theorem percentage_le_hundred_iff :
    percentage read total ≤ 100 ↔ total = 0 ∨ 200 * read < 201 * total := by
  rcases Nat.eq_zero_or_pos total with rfl | positive
  · simp [percentage_zero_total]
  · have room : (read * 200 + total) / (2 * total) ≤ 100
        ↔ read * 200 + total < 101 * (2 * total) := by
      rw [← Nat.lt_succ_iff, Nat.div_lt_iff_lt_mul (by omega)]
    rw [percentage_of_pos positive]
    omega

/-- Everything that was announced is a hundred percent at least. -/
theorem hundred_le_percentage (enough : total ≤ read) : 100 ≤ percentage read total := by
  rcases Nat.eq_zero_or_pos total with rfl | positive
  · exact Int.le_refl 100
  · have room : 100 ≤ (read * 200 + total) / (2 * total) := by
      rw [Nat.le_div_iff_mul_le (by omega)]
      omega
    rw [percentage_of_pos positive]
    omega

end Percents

/-! ### Reports -/

section Reports

variable {tracker : PercentTracker} {counts : List Nat} {total : Nat}

theorem last_step (tracker : PercentTracker) (read total : Nat) :
    (tracker.step read total).2.last = percentage read total := by
  simp only [PercentTracker.step]
  split
  · rename_i same
    exact (beq_iff_eq.mp same).symm
  · rfl

/-- The percent reported last is that of the last count. -/
theorem last_after (tracker : PercentTracker) (total : Nat) (counts : List Nat) :
    (tracker.after total counts).last
      = (counts.getLast?.map fun (read : Nat) => percentage read total).getD tracker.last := by
  rcases List.eq_nil_or_concat counts with rfl | ⟨front, read, rfl⟩
  · rfl
  · simp [PercentTracker.after, last_step]

theorem exists_count_of_mem_reports {report : PercentTracker.Report}
    (member : report ∈ tracker.reports total counts) :
    ∃ read ∈ counts, report.percent = percentage read total := by
  induction counts generalizing tracker with
  | nil => cases member
  | cons read rest ih =>
    rcases List.mem_append.mp member with here | later
    · refine ⟨read, List.mem_cons_self, ?_⟩
      simp only [PercentTracker.step] at here
      split at here
      · cases here
      · rw [List.mem_singleton.mp here]
    · obtain ⟨other, inside, same⟩ := ih later
      exact ⟨other, List.mem_cons_of_mem _ inside, same⟩

/-- The last report, if there is any, has the percent reported last. -/
theorem getLast?_reports (tracker : PercentTracker) (total : Nat) (counts : List Nat) :
    ((tracker.reports total counts).getLast?.map PercentTracker.Report.percent).getD tracker.last
      = (tracker.after total counts).last := by
  induction counts generalizing tracker with
  | nil => rfl
  | cons read rest ih =>
    have later := ih (tracker.step read total).2
    simp only [PercentTracker.after, List.foldl_cons, PercentTracker.reports] at later ⊢
    rw [← later, List.getLast?_append]
    cases (PercentTracker.reports total (tracker.step read total).2 rest).getLast? with
    | some report => rfl
    | none =>
      simp only [PercentTracker.step]
      split <;> rfl

/-- **Counts whose percents do not fall give rise to reports whose percents rise.** -/
theorem reports_increase
    (sorted : counts.Pairwise fun (first second : Nat) =>
      percentage first total ≤ percentage second total)
    (above : ∀ read ∈ counts, tracker.last ≤ percentage read total) :
    (tracker.reports total counts).Pairwise (fun first second => first.percent < second.percent)
      ∧ ∀ report ∈ tracker.reports total counts, tracker.last < report.percent := by
  induction counts generalizing tracker with
  | nil => exact ⟨List.Pairwise.nil, fun _ member => absurd member List.not_mem_nil⟩
  | cons read rest ih =>
    obtain ⟨first, others⟩ := List.pairwise_cons.mp sorted
    have here := above read List.mem_cons_self
    have next : ∀ other ∈ rest, (tracker.step read total).2.last ≤ percentage other total :=
      fun other inside => (last_step tracker read total).symm ▸ first other inside
    obtain ⟨rising, higher⟩ := ih others next
    rw [last_step] at higher
    simp only [PercentTracker.reports, PercentTracker.step] at rising higher ⊢
    split at rising
    · rename_i same
      have equal := beq_iff_eq.mp same
      simp only [same, if_true, Option.toList_none, List.nil_append] at higher ⊢
      exact ⟨rising, fun report member => equal ▸ higher report member⟩
    · rename_i new
      have different : percentage read total ≠ tracker.last := fun same => new (beq_iff_eq.mpr same)
      have strict : tracker.last < percentage read total := by omega
      simp only [new, Bool.false_eq_true, if_false, Option.toList_some, List.singleton_append,
        List.pairwise_cons, List.mem_cons] at higher ⊢
      refine ⟨⟨higher, rising⟩, ?_⟩
      rintro report (rfl | member)
      · exact strict
      · exact Int.lt_trans strict (higher report member)

/-- Rising percents are no more than there is room for. -/
theorem length_le_of_increasing {reports : List PercentTracker.Report} {low : Int} {room : Nat}
    (rising : reports.Pairwise fun first second => first.percent < second.percent)
    (above : ∀ report ∈ reports, low < report.percent)
    (below : ∀ report ∈ reports, report.percent ≤ low + room) : reports.length ≤ room := by
  induction reports generalizing low room with
  | nil => exact Nat.zero_le _
  | cons report rest ih =>
    obtain ⟨first, others⟩ := List.pairwise_cons.mp rising
    have higher := above report List.mem_cons_self
    have within := below report List.mem_cons_self
    obtain ⟨left, same⟩ : ∃ left : Nat, report.percent + left = low + room :=
      ⟨(low + room - report.percent).toNat, by omega⟩
    have few : rest.length ≤ left := ih others first fun other member =>
      same ▸ below other (List.mem_cons_of_mem _ member)
    rw [List.length_cons]
    omega

end Reports

end AssetFetch
