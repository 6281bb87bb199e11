/-
**When the progress of a download is orderly.**

* `countsAfter_sorted`, `getLast?_countsAfter`: the counts of a body rise to its size;
* `OrderlyCalls`, `OrderlyPercents`: the progress that a follower may expect;
* `Tells.orderly_calls_iff`, `Tells.percents_rise`, `Tells.orderly_percents_iff`: when the counts
  of a body and their percents are such a progress;
* `download_progress_orderly_iff`: exactly when no more arrives than was announced, and for percents
  up to half a percent more;
* `overlong_download_is_disorderly`: a download in which more arrives.
-/

import AssetFetch.Proofs.Download.Told

namespace AssetFetch

open PercentTracker

/-- The calls of an orderly progress: they all have the same total, their counts do not fall and
stay within the total, and that is the last one of a finished download. -/
structure OrderlyCalls (total : Nat) (finished : Bool) (calls : List (Nat × Nat)) : Prop where
  same : ∀ call ∈ calls, call.2 = total
  rising : calls.Pairwise fun first second => first.1 ≤ second.1
  within : ∀ call ∈ calls, call.1 ≤ total
  last : finished = true → calls.getLast? = some (total, total)

/-- The reports of an orderly progress: their percents rise, there are at most a hundred of them,
none is above a hundred, and that is the last one of a finished download. -/
structure OrderlyPercents (finished : Bool) (reports : List Report) : Prop where
  rising : reports.Pairwise fun first second => first.percent < second.percent
  few : reports.length ≤ 100
  within : ∀ report ∈ reports, report.percent ≤ 100
  last : finished = true → reports.getLast?.map Report.percent = some 100

namespace Download

/-! ### The counts of a body -/

section Counts

variable {read count : Nat} {pieces : List Bytes}

theorem mem_countsAfter (member : count ∈ countsAfter read pieces) :
    read < count ∧ count ≤ read + pieces.flatten.length := by
  induction pieces generalizing read with
  | nil => cases member
  | cons piece rest ih =>
    rw [List.flatten_cons, List.length_append]
    by_cases filled : piece.isEmpty = true
    · rw [countsAfter, if_pos filled] at member
      obtain ⟨above, below⟩ := ih member
      omega
    · have some : 0 < piece.length := List.length_pos_iff.mpr (by simpa using filled)
      rw [countsAfter, if_neg filled, List.mem_cons] at member
      rcases member with rfl | later
      · omega
      · obtain ⟨above, below⟩ := ih later
        omega

theorem countsAfter_sorted (read : Nat) (pieces : List Bytes) :
    (countsAfter read pieces).Pairwise (· ≤ ·) := by
  induction pieces generalizing read with
  | nil => exact List.Pairwise.nil
  | cons piece rest ih =>
    rw [countsAfter]
    split
    · exact ih read
    · refine List.pairwise_cons.mpr ⟨fun count member => ?_, ih _⟩
      exact Nat.le_of_lt (mem_countsAfter member).1

/-- **The last count of a body is its size.** -/
theorem getLast?_countsAfter (read : Nat) (pieces : List Bytes) :
    (countsAfter read pieces).getLast?
      = if pieces.flatten = [] then none else some (read + pieces.flatten.length) := by
  induction pieces generalizing read with
  | nil => rfl
  | cons piece rest ih =>
    rw [countsAfter, List.flatten_cons, List.length_append]
    by_cases filled : piece.isEmpty = true
    · obtain rfl : piece = [] := List.isEmpty_iff.mp filled
      simpa using ih read
    · have whole : piece ++ rest.flatten ≠ [] := by
        intro empty
        exact filled (List.isEmpty_iff.mpr (List.append_eq_nil_iff.mp empty).1)
      rw [if_neg filled, if_neg whole, List.getLast?_cons, ih]
      by_cases empty : rest.flatten = []
      · rw [if_pos empty, empty]
        rfl
      · rw [if_neg empty, Option.getD_some, Nat.add_assoc]

end Counts

/-! ### Counts and percents that are told -/

section Telling

variable {arrivals : List (Except Failure Bytes)} {total : Nat} {pieces : List Bytes}
  {counts : List Nat} {finished : Bool}

/-- Beyond the counts of the pieces there is at most one more, where nothing was announced. -/
theorem Tells.cases (tells : Tells arrivals total pieces counts finished) :
    counts = countsAfter 0 pieces ∨ (total = 0 ∧ counts = countsAfter 0 pieces ++ [0]) := by
  rcases tells.counted with same | same
  · exact .inl same
  · rw [toldCounts] at same
    split at same
    · rename_i nothing
      exact .inr ⟨nothing, same⟩
    · exact .inl (same.trans (List.append_nil _))

/-- A body that is not empty is told of to its size. -/
theorem Tells.size_mem (tells : Tells arrivals total pieces counts finished)
    (filled : pieces.flatten ≠ []) : pieces.flatten.length ∈ counts := by
  have last : (countsAfter 0 pieces).getLast? = some pieces.flatten.length := by
    rw [getLast?_countsAfter, if_neg filled, Nat.zero_add]
  have member := List.mem_of_getLast? last
  rcases tells.cases with rfl | ⟨_, rfl⟩
  · exact member
  · exact List.mem_append_left _ member

theorem Tells.le_size (tells : Tells arrivals total pieces counts finished) :
    ∀ count ∈ counts, count ≤ pieces.flatten.length := by
  intro count member
  have early : ∀ count ∈ countsAfter 0 pieces, count ≤ pieces.flatten.length := fun count inside =>
    Nat.zero_add pieces.flatten.length ▸ (mem_countsAfter inside).2
  rcases tells.cases with rfl | ⟨_, rfl⟩
  · exact early count member
  · rcases List.mem_append.mp member with inside | extra
    · exact early count inside
    · rw [List.mem_singleton.mp extra]
      exact Nat.zero_le _

/-- **The last count of a finished download** is the size of its body, or zero if nothing was
announced. -/
theorem Tells.last (tells : Tells arrivals total pieces counts finished) (done : finished = true) :
    counts.getLast? = some (if total = 0 then 0 else pieces.flatten.length) := by
  obtain ⟨_, enough, rfl⟩ := tells.whole done
  by_cases nothing : total = 0
  · simp [toldCounts, nothing]
  · have filled : pieces.flatten ≠ [] := by
      intro empty
      rw [empty, List.length_nil] at enough
      omega
    rw [toldCounts, if_neg nothing, if_neg nothing, List.append_nil, getLast?_countsAfter,
      if_neg filled, Nat.zero_add]

/-- **The calls are orderly exactly when no more arrives than was announced.** -/
theorem Tells.orderly_calls_iff (tells : Tells arrivals total pieces counts finished) :
    OrderlyCalls total finished (counts.map fun read => (read, total))
      ↔ pieces.flatten.length ≤ total := by
  constructor
  · intro orderly
    by_cases empty : pieces.flatten = []
    · simp [empty]
    · exact orderly.within _ (List.mem_map_of_mem (tells.size_mem empty))
  · intro within
    refine ⟨?_, ?_, ?_, ?_⟩
    · intro call member
      obtain ⟨count, _, rfl⟩ := List.mem_map.mp member
      rfl
    · rw [List.pairwise_map]
      rcases tells.cases with rfl | ⟨rfl, rfl⟩
      · exact countsAfter_sorted 0 pieces
      · -- nothing was announced, so nothing has arrived either
        have empty : countsAfter 0 pieces = [] := by
          rw [← List.getLast?_eq_none_iff, getLast?_countsAfter,
            if_pos (List.length_eq_zero_iff.mp (Nat.le_zero.mp within))]
        rw [empty]
        exact List.pairwise_singleton _ _
    · intro call member
      obtain ⟨count, inside, rfl⟩ := List.mem_map.mp member
      exact Nat.le_trans (tells.le_size count inside) within
    · intro done
      obtain ⟨_, enough, _⟩ := tells.whole done
      rw [List.getLast?_map, tells.last done]
      split
      · rename_i nothing
        rw [nothing]
        rfl
      · rw [Nat.le_antisymm within enough]
        rfl

/-- The percents of the counts do not fall. -/
theorem Tells.percents_sorted (tells : Tells arrivals total pieces counts finished) :
    counts.Pairwise fun (first second : Nat) =>
      percentage first total ≤ percentage second total := by
  have sorted := (countsAfter_sorted 0 pieces).imp fun {first second : Nat} le =>
    percentage_mono total le
  rcases tells.cases with rfl | ⟨rfl, rfl⟩
  · exact sorted
  · -- of nothing every count is a hundred percent
    exact List.pairwise_of_forall fun _ _ => Int.le_refl 100

/-- **The percents rise**, whatever arrives. -/
theorem Tells.percents_rise (tells : Tells arrivals total pieces counts finished) :
    (PercentTracker.start.reports total counts).Pairwise
        (fun first second => first.percent < second.percent)
      ∧ ∀ report ∈ PercentTracker.start.reports total counts, 0 < report.percent :=
  reports_increase tells.percents_sorted fun read _ => percentage_nonneg read total

/-- The percent reported last is that of the last count. -/
theorem last_reported (total : Nat) (counts : List Nat) :
    ((PercentTracker.start.reports total counts).getLast?.map Report.percent).getD 0
      = (counts.getLast?.map fun (read : Nat) => percentage read total).getD 0 :=
  (getLast?_reports .start total counts).trans (last_after .start total counts)

/-- The percents are within a hundred exactly when that of the whole body is. -/
theorem Tells.within_iff (tells : Tells arrivals total pieces counts finished) :
    (∀ report ∈ PercentTracker.start.reports total counts, report.percent ≤ 100)
      ↔ percentage pieces.flatten.length total ≤ 100 := by
  constructor
  · intro within
    have reported := last_reported total counts
    rcases tells.cases with rfl | ⟨rfl, _⟩
    · by_cases empty : pieces.flatten = []
      · exact percentage_le_hundred_iff.mpr (by simp [empty]; omega)
      · rw [getLast?_countsAfter, if_neg empty, Nat.zero_add] at reported
        cases last : (PercentTracker.start.reports total (countsAfter 0 pieces)).getLast? with
        | none =>
          rw [last] at reported
          exact Int.le_trans (Int.le_of_eq reported.symm) (by decide)
        | some report =>
          rw [last] at reported
          exact Int.le_trans (Int.le_of_eq reported.symm) (within _ (List.mem_of_getLast? last))
    · exact Int.le_refl 100
  · intro within report member
    obtain ⟨read, inside, same⟩ := exists_count_of_mem_reports member
    rw [same]
    exact Int.le_trans (percentage_mono total (tells.le_size read inside)) within

/-- The last percent of a finished download is that of its body. -/
theorem Tells.last_percent (tells : Tells arrivals total pieces counts finished)
    (done : finished = true) :
    (PercentTracker.start.reports total counts).getLast?.map Report.percent
      = some (percentage pieces.flatten.length total) := by
  have enough := (tells.whole done).2.1
  have reported := last_reported total counts
  have full := hundred_le_percentage enough
  have same : percentage (if total = 0 then 0 else pieces.flatten.length : Nat) total
      = percentage pieces.flatten.length total := by
    split
    · rename_i nothing
      rw [nothing, Int.natCast_zero, percentage_zero_total, percentage_zero_total]
    · rfl
  rw [tells.last done, Option.map_some, Option.getD_some, same] at reported
  cases last : (PercentTracker.start.reports total counts).getLast? with
  | none =>
    rw [last] at reported
    replace reported : (0 : Int) = percentage pieces.flatten.length total := reported
    omega
  | some report =>
    rw [last] at reported
    exact congrArg some reported

/-- **The percents are orderly exactly when** nothing was announced, or what arrives is less than
half a percent beyond what was. -/
theorem Tells.orderly_percents_iff (tells : Tells arrivals total pieces counts finished) :
    OrderlyPercents finished (PercentTracker.start.reports total counts)
      ↔ total = 0 ∨ 200 * pieces.flatten.length < 201 * total := by
  rw [← percentage_le_hundred_iff, ← tells.within_iff]
  obtain ⟨rising, above⟩ := tells.percents_rise
  refine ⟨OrderlyPercents.within, fun within => ?_⟩
  refine ⟨rising, length_le_of_increasing rising above within, within, fun done => ?_⟩
  have full := hundred_le_percentage (tells.whole done).2.1
  rw [tells.last_percent done, Int.le_antisymm (tells.within_iff.mp within) full]

end Telling

/-! ### The progress of a download -/

section Progress

/-- **The calls of a download are orderly exactly when no more arrives than was announced**, and its
percents, which always rise, exactly when nothing was announced or less than half a percent arrives
beyond it. Where no size is announced nothing is told, and the download fails. -/
theorem download_progress_orderly_iff (surroundings : Surroundings) (downloader : Downloader)
    (job : Download) (tree : FileTree) :
    (∃ outcome later, surroundings.attempt (download downloader job .counts) (.start tree)
        = (outcome, later)
      ∧ ((outcome.isOk = false ∧ later.calls = [])
        ∨ ∃ response total pieces counts, surroundings.script.head? = some (.ok response)
          ∧ Announces response total
          ∧ Tells (response.arrivals downloader.pieceSize) total pieces counts outcome.isOk
          ∧ later.calls = counts.map (fun read => (read, total))
          ∧ (OrderlyCalls total outcome.isOk later.calls ↔ pieces.flatten.length ≤ total)))
    ∧ ∃ outcome later, surroundings.attempt (downloadReporting downloader job) (.start tree)
        = (outcome, later)
      ∧ ((outcome.isOk = false ∧ later.reports = [])
        ∨ ∃ response total pieces counts, surroundings.script.head? = some (.ok response)
          ∧ Announces response total
          ∧ Tells (response.arrivals downloader.pieceSize) total pieces counts outcome.isOk
          ∧ later.reports = PercentTracker.start.reports total counts
          ∧ later.reports.Pairwise (fun first second => first.percent < second.percent)
          ∧ (OrderlyPercents outcome.isOk later.reports
            ↔ total = 0 ∨ 200 * pieces.flatten.length < 201 * total)) := by
  constructor
  · refine ⟨_, _, rfl, ?_⟩
    rcases telling_download surroundings downloader job .counts tree with
      ⟨fails, unheard⟩ | ⟨response, total, head, announced, pieces, counts, tells, heard⟩
    · exact .inl ⟨fails, congrArg Prod.fst unheard⟩
    · have called := congrArg Prod.fst heard
      exact .inr ⟨response, total, pieces, counts, head, announced, tells, called,
        (Eq.to_iff (congrArg (OrderlyCalls total _) called)).trans tells.orderly_calls_iff⟩
  · have same : surroundings.attempt (downloadReporting downloader job) (.start tree)
        = surroundings.attempt (download downloader job .percents) (.start tree) :=
      Surroundings.attempt_bind_of_ok rfl
    refine ⟨_, _, same, ?_⟩
    rcases telling_download surroundings downloader job .percents tree with
      ⟨fails, unheard⟩ | ⟨response, total, head, announced, pieces, counts, tells, heard⟩
    · exact .inl ⟨fails, congrArg Prod.snd unheard⟩
    · have reported : Scene.reports _ = PercentTracker.start.reports total counts :=
        congrArg Prod.snd heard
      exact .inr ⟨response, total, pieces, counts, head, announced, tells, reported,
        reported.symm ▸ tells.percents_rise.1,
        (Eq.to_iff (congrArg (OrderlyPercents _) reported)).trans tells.orderly_percents_iff⟩

/-- Surroundings whose response announces four bytes and brings six. -/
def overlong : Surroundings :=
  .calm "0123456789"
    [.ok ⟨200, [("content-length", .text "4")], .pieces [.ok [1, 2, 3], .ok [4, 5, 6]],
      .utf8 Json.Depths.usual.read⟩]

/-- **A download may be told of more than its total, and succeed**; then its percents are not
orderly either. -/
theorem overlong_download_is_disorderly :
    (∃ outcome later, overlong.attempt (download .standard threeBytes .counts) (.start .empty)
        = (outcome, later)
      ∧ outcome.isOk = true ∧ later.calls = [(3, 4), (6, 4)]
      ∧ ¬ OrderlyCalls 4 outcome.isOk later.calls)
    ∧ ∃ outcome later, overlong.attempt (downloadReporting .standard threeBytes) (.start .empty)
        = (outcome, later)
      ∧ outcome.isOk = true ∧ later.reports = [⟨75, 75⟩, ⟨150, 75⟩]
      ∧ ¬ OrderlyPercents outcome.isOk later.reports := by
  have beyond : ∀ finished calls, calls = [(3, 4), (6, 4)] → ¬ OrderlyCalls 4 finished calls := by
    rintro finished _ rfl orderly
    exact absurd (orderly.within (6, 4) (by decide)) (by decide)
  have above : ∀ finished reports, reports = [⟨75, 75⟩, ⟨150, 75⟩] →
      ¬ OrderlyPercents finished reports := by
    rintro finished _ rfl orderly
    exact absurd (orderly.within ⟨150, 75⟩ (by decide)) (by decide)
  have called : (overlong.attempt (download .standard threeBytes .counts)
      (.start .empty)).2.calls = [(3, 4), (6, 4)] := by decide +kernel
  have reported : (overlong.attempt (downloadReporting .standard threeBytes)
      (.start .empty)).2.reports = [⟨75, 75⟩, ⟨150, 75⟩] := by decide +kernel
  exact ⟨⟨_, _, rfl, by decide +kernel, called, beyond _ _ called⟩,
    ⟨_, _, rfl, by decide +kernel, reported, above _ _ reported⟩⟩

end Progress

end Download

end AssetFetch
