/-
**Progress in whole percents.**

Byte counts become percents, and a percent is reported only when it differs from the last one.

* `percentage`: the share of a total in percent, a half rounded up, and a hundred of nothing;
* `PercentTracker.step`: the report that a count gives rise to;
* `ProgressLine`: progress as lines for the user.
-/

import AssetFetch.Text.Numeral

namespace AssetFetch

open AssetFetch.Text

/-- A share of a total in percent, rounded to the nearest whole percent, a half upwards. -/
def percentage (read total : Int) : Int :=
  if total == 0 then 100 else Int.fdiv (read * 200 + total) (2 * total)

/-- A half is rounded up. -/
example : percentage 1 200 = 1 ∧ percentage 199 200 = 100 ∧ percentage 0 0 = 100 := by decide

/-- The percent reported last. -/
structure PercentTracker where
  last : Int
  deriving DecidableEq, Repr, Inhabited

namespace PercentTracker

/-- The tracker before the first count. -/
def start : PercentTracker := ⟨0⟩

/-- A report: the percent and its difference to the one before. -/
structure Report where
  percent : Int
  delta : Int
  deriving DecidableEq, Repr, Inhabited

/-- The report that a count gives rise to, if its percent is new, and the tracker after it. -/
def step (tracker : PercentTracker) (read total : Int) : Option Report × PercentTracker :=
  let percent := percentage read total
  if percent == tracker.last then (none, tracker)
  else (some ⟨percent, percent - tracker.last⟩, ⟨percent⟩)

end PercentTracker

/-- What a line of progress shows. -/
structure ProgressLine where
  title : String
  percent : Int
  deriving DecidableEq, Repr, Inhabited

namespace ProgressLine

/-- Nothing under way. -/
def start : ProgressLine := ⟨"", 0⟩

/-- The start of something with a title. -/
def begin (title : String) : ProgressLine := ⟨title, 0⟩

/-- The text of a percent: behind the title, if there is one. -/
def text (line : ProgressLine) (percent : Int) : String :=
  (if line.title.isEmpty then "" else line.title ++ ": ") ++ intText percent ++ "%\n"

/-- The line after a report. -/
def report (line : ProgressLine) (percent : Int) : ProgressLine :=
  { line with percent }

end ProgressLine

end AssetFetch
