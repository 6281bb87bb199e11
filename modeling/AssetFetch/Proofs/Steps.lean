/-
**What a step may change in a world.**

One lemma for each operation says all of the world that it may change. What an operation leaves
alone, whatever that is, follows from its lemma without another look at the operation.

* `exists_of_onFile`: an operation on files changes files, and may close the log file if there is
  one (`exists_of_onFile_of_unlogged`);
* `exists_of_onKeyring`, `exists_of_onSend`: the keyring and the network;
* `exists_of_log`: a line for the log is told to the user at most, and added to the log file if
  there is one (`exists_of_log_of_unlogged`);
* `exists_of_openLog`, `exists_of_report`, `progress_snd`: the log file, the display, the follower.
-/

import AssetFetch.World

namespace AssetFetch.World

variable {world : World}

/-! ### Files -/

section Files

theorem exists_of_changing (paths : List Path) (result : Except FileFault FileTree) :
    ∃ tree, (world.changing paths result).2 = { world with tree } := by
  cases result with
  | ok tree => exact ⟨tree, rfl⟩
  | error fault => exact ⟨world.tree, rfl⟩

theorem exists_of_withMode (path : Path) (mode : Given Int)
    (result : Int → Except FileFault FileTree) :
    ∃ tree, (world.withMode path mode result).2 = { world with tree } := by
  unfold withMode
  split
  · exact ⟨world.tree, rfl⟩
  · exact ⟨world.tree, rfl⟩
  · exact exists_of_changing ..
  · exact ⟨world.tree, rfl⟩
  · split
    · exact ⟨world.tree, rfl⟩
    · exact exists_of_changing ..

theorem withoutLogAt_cases (world : World) (path : Path) :
    world.withoutLogAt path = world ∨ world.withoutLogAt path = { world with logFile := none } := by
  unfold withoutLogAt
  split
  · split
    · exact .inr rfl
    · exact .inl rfl
  · exact .inl rfl

theorem exists_of_withoutLogAt (path : Path) (tree : FileTree) :
    ∃ logFile, { world.withoutLogAt path with tree } = { world with tree, logFile }
      ∧ (logFile = world.logFile ∨ logFile = none) := by
  rcases world.withoutLogAt_cases path with same | closed
  · exact ⟨world.logFile, by rw [same], .inl rfl⟩
  · exact ⟨none, by rw [closed], .inr rfl⟩

/-- **An operation on files** changes files, and may close the log file. -/
theorem exists_of_onFile (world : World) (action : FileAction) :
    ∃ tree logFile, (world.onFile action).2 = { world with tree, logFile }
      ∧ (logFile = world.logFile ∨ logFile = none) := by
  have open' : ∀ {after : World}, (∃ tree, after = { world with tree }) →
      ∃ tree logFile, after = { world with tree, logFile }
        ∧ (logFile = world.logFile ∨ logFile = none) := by
    rintro _ ⟨tree, rfl⟩
    exact ⟨tree, world.logFile, rfl, .inl rfl⟩
  cases action with
  | create path mode => exact open' (exists_of_withMode ..)
  | overwrite path | append path bytes | makeDirectory path => exact open' (exists_of_changing ..)
  | flush path | close path => exact open' ⟨world.tree, rfl⟩
  | sync path =>
    simp only [onFile]
    split <;> exact open' ⟨world.tree, rfl⟩
  | setMode path mode =>
    simp only [onFile]
    split
    · exact open' ⟨world.tree, rfl⟩
    · exact open' (exists_of_withMode ..)
  | rename source target =>
    simp only [onFile]
    split
    · exact open' ⟨world.tree, rfl⟩
    · split
      · exact ⟨_, exists_of_withoutLogAt ..⟩
      · exact open' ⟨world.tree, rfl⟩
  | remove path =>
    simp only [onFile]
    split
    · exact open' ⟨world.tree, rfl⟩
    · split
      · exact ⟨_, exists_of_withoutLogAt ..⟩
      · exact open' ⟨world.tree, rfl⟩
  | isDirectory path =>
    simp only [onFile]
    split <;> exact open' ⟨world.tree, rfl⟩
  | read path => exact open' ⟨world.tree, rfl⟩

theorem exists_of_onFile_of_unlogged (unlogged : world.logFile = none) (action : FileAction) :
    ∃ tree, (world.onFile action).2 = { world with tree } := by
  obtain ⟨tree, _, same, rfl | rfl⟩ := world.exists_of_onFile action
  · exact ⟨tree, same⟩
  · exact ⟨tree, by rw [same, ← unlogged]⟩

end Files

/-! ### Keyring and network -/

theorem exists_of_onKeyring (world : World) (action : KeyringAction) :
    ∃ keyring, (world.onKeyring action).2 = { world with keyring } := by
  unfold onKeyring
  split <;> split <;> exact ⟨_, rfl⟩

theorem exists_of_onSend (world : World) (request : Request) :
    ∃ script closed, (world.onSend request).2
      = { world with requests := world.requests ++ [request], script, closed } := by
  unfold onSend
  simp only
  split
  · exact ⟨world.script, world.closed, rfl⟩
  · exact ⟨_, world.closed, rfl⟩
  · exact ⟨_, _, rfl⟩

/-! ### Log, display and follower -/

theorem exists_of_toConsole (world : World) (record : LogLine) (line : String) :
    ∃ told, world.toConsole record line = { world with told } := by
  unfold toConsole
  split
  · split <;> exact ⟨_, rfl⟩
  · exact ⟨world.told, rfl⟩

theorem exists_of_toLogFile (world : World) (record : LogLine) (line : String) :
    ∃ tree, world.toLogFile record line = { world with tree }
      ∧ (tree = world.tree ∨ ∃ location bytes, world.logFile = some location
          ∧ tree = world.tree.appendAt location bytes) := by
  unfold toLogFile
  split
  · rename_i location _ opened
    split
    · exact ⟨_, rfl, .inr ⟨location, _, opened, rfl⟩⟩
    · exact ⟨world.tree, rfl, .inl rfl⟩
  · exact ⟨world.tree, rfl, .inl rfl⟩

/-- **A line for the log** is noted, told to the user at most, and added to the log file if there is
one. -/
theorem exists_of_log (world : World) (record : LogLine) :
    ∃ told tree,
      world.log record = { world with records := world.records ++ [record], told, tree }
        ∧ (tree = world.tree ∨ ∃ location bytes, world.logFile = some location
            ∧ tree = world.tree.appendAt location bytes) := by
  unfold log
  simp only
  split
  · obtain ⟨told, shown⟩ := exists_of_toConsole
      { world with records := world.records ++ [record] } record (record.written time ++ "\n")
    rw [shown]
    obtain ⟨tree, written, leaves⟩ := exists_of_toLogFile
      { world with records := world.records ++ [record], told } record
      (record.written time ++ "\n")
    exact ⟨told, tree, written, leaves⟩
  · exact ⟨world.told, world.tree, rfl, .inl rfl⟩

theorem exists_of_log_of_unlogged (unlogged : world.logFile = none) (record : LogLine) :
    ∃ told, world.log record = { world with records := world.records ++ [record], told } := by
  obtain ⟨told, _, same, rfl | ⟨location, _, opened, _⟩⟩ := world.exists_of_log record
  · exact ⟨told, same⟩
  · rw [unlogged] at opened
    cases opened

/-- What is printed is added to the output, or nothing is. -/
theorem exists_of_print (world : World) (text : Text.LooseText) :
    ∃ output, (world.print text).2 = { world with output } := by
  unfold print
  split
  · exact ⟨world.output, rfl⟩
  · exact ⟨_, rfl⟩

theorem exists_of_openLog (world : World) (path : Path) (level : Int) :
    ∃ tree setup logFile, (world.openLog path level).2 = { world with tree, setup, logFile } := by
  unfold openLog
  split
  · exact ⟨world.tree, world.setup, world.logFile, rfl⟩
  · exact ⟨_, _, _, rfl⟩

theorem exists_of_report (world : World) (percent delta : Int) :
    ∃ line told, world.report percent delta = { world with
      display := { world.display with
        reports := world.display.reports ++ [⟨percent, delta⟩]
        line }
      told } := by
  unfold report
  simp only
  split
  · exact ⟨_, _, rfl⟩
  · exact ⟨world.display.line, world.told, rfl⟩

/-- What the follower leaves of a world when it has been called. -/
theorem progress_snd (world : World) (read total : Nat) :
    (world.progress read total).2 = { world with
      follower := { world.follower with
        calls := world.follower.calls ++ [(read, total)]
        seen := if world.follower.keepsFiles then world.follower.seen ++ [world.tree]
          else world.follower.seen }
      cancelled := world.cancelled
        || world.follower.cancelAt == some (world.follower.calls ++ [(read, total)]).length } := by
  unfold progress
  simp only
  split
  · split <;> rfl
  · rfl

end AssetFetch.World
