/-
**Command lines about settings.**

* `SettingsOption`, `SettingsCommand`: going back to the defaults, and assignments that are
  accepted, in any order and as often as one likes; their words, and what they make of settings;
* `head?_ne_of_accepted`: an accepted assignment does not start like a switch;
* `parseArguments_words`: **the words of such a command are read as the command**;
* `SettingsCommand.standing`, `SettingsCommand.foldl_apply`: **the assignments that count after some
  commands** are those since the last one that goes back to the defaults;
* `SettingsCommand.kept_apply`: settings with values that are meant for their fields stay such.
-/

import AssetFetch.CommandLine
import AssetFetch.Proofs.Settings.File

namespace AssetFetch

open AssetFetch.Text

/-- An option of a command about settings. -/
inductive SettingsOption where
  | reset
  | assign (text : String) (field : Field) (value : Value)
      (accepted : parseAssignment text = .ok (field, value))

namespace SettingsOption

/-- The words of an option. -/
def words : SettingsOption → List String
  | reset => ["--reset-settings"]
  | assign text _ _ _ => ["--set", text]

/-- Whether an option goes back to the defaults. -/
def isReset : SettingsOption → Bool
  | reset => true
  | assign .. => false

/-- The field and the value that an option assigns, if it does. -/
def assignment? : SettingsOption → Option (Field × Value)
  | reset => none
  | assign _ field value _ => some (field, value)

end SettingsOption

/-- A command about settings: some options. -/
structure SettingsCommand where
  options : List SettingsOption
  asked : options ≠ []

namespace SettingsCommand

/-- The words of a command. -/
def words (command : SettingsCommand) : List String :=
  command.options.flatMap SettingsOption.words

/-- Whether a command goes back to the defaults. -/
def resets (command : SettingsCommand) : Bool :=
  command.options.any SettingsOption.isReset

/-- The assignments of a command in their order. -/
def assignments (command : SettingsCommand) : List (Field × Value) :=
  command.options.filterMap SettingsOption.assignment?

/-- **What a command makes of settings**: going back to the defaults comes first, wherever it
stands, and of several assignments to a field the last one counts. -/
def apply (command : SettingsCommand) (settings : Settings) : Settings :=
  (if command.resets then Settings.defaults else settings).assigned command.assignments

/-- The assignments that count after some commands: those given since the last command that goes
back to the defaults, with its own. -/
def standing : List SettingsCommand → List (Field × Value)
  | [] => []
  | command :: later =>
    if later.any resets then standing later else command.assignments ++ standing later

/-- **What commands make of settings**, one after the other: the assignments that count, made to the
defaults if a command goes back to them. -/
theorem foldl_apply (commands : List SettingsCommand) (settings : Settings) :
    commands.foldl (fun settings command => command.apply settings) settings
      = (if commands.any resets then Settings.defaults else settings).assigned
          (standing commands) := by
  induction commands generalizing settings with
  | nil => rfl
  | cons command later ih =>
    rw [List.foldl_cons, ih, List.any_cons, standing]
    by_cases again : later.any resets = true
    · simp only [again, if_true, Bool.or_true]
    · have never : later.any resets = false := by simpa using again
      simp only [never, Bool.false_eq_true, if_false, Bool.or_false, Settings.assigned_append]
      rfl

end SettingsCommand

/-! ### Values that stay meant for their fields -/

section Kept

theorem keeps_of_mem_assignments {command : SettingsCommand} {assignment : Field × Value}
    (member : assignment ∈ command.assignments) : assignment.1.Keeps assignment.2 := by
  obtain ⟨option, _, assigned⟩ := List.mem_filterMap.mp member
  cases option with
  | reset => cases assigned
  | assign text field value accepted =>
    cases assigned
    exact parseAssignment_ok accepted

/-- **A command keeps values in the fields that are meant for them.** -/
theorem SettingsCommand.kept_apply (command : SettingsCommand) {settings : Settings}
    (kept : settings.Kept) : (command.apply settings).Kept := by
  have start : (if command.resets then Settings.defaults else settings).Kept := by
    split
    · exact Settings.kept_defaults
    · exact kept
  exact start.assigned fun _ => keeps_of_mem_assignments

end Kept

/-! ### Reading the words -/

namespace CommandLine

section Words

variable {text : String} {field : Field} {value : Value}

/-- The blanks at the ends are not at the front of a text that starts otherwise. -/
theorem head?_trim {first : Char} {rest : List Char} (solid : isBlank first = false) :
    (trimChars (first :: rest)).head? = some first := by
  have front : (first :: rest).dropWhile isBlank = first :: rest :=
    List.dropWhile_cons_of_neg (by simp [solid])
  obtain ⟨more, whole⟩ := List.rdropWhile_prefix isBlank (first :: rest)
  rw [trimChars_eq, front]
  cases kept : (first :: rest).rdropWhile isBlank with
  | nil =>
    have blank := (List.rdropWhile_eq_nil_iff.mp kept) first List.mem_cons_self
    rw [solid] at blank
    cases blank
  | cons other others =>
    rw [kept, List.cons_append] at whole
    rw [(List.cons.inj whole).1]
    rfl

/-- **An accepted assignment does not start like a switch.** -/
theorem head?_ne_of_accepted (accepted : parseAssignment text = .ok (field, value)) :
    text.toList.head? ≠ some '-' := by
  intro dash
  obtain ⟨left, right, whole, _, found, _⟩ := parseAssignment_eq_ok_iff.mp accepted
  obtain ⟨before, behind, parts, rfl, rest⟩ := List.map_eq_append_iff.mp whole
  obtain ⟨mark, after, rfl, equals, _⟩ := List.map_eq_cons_iff.mp rest
  rw [show (⟨before.map .char⟩ : LooseText) = LooseText.ofString (String.ofList before) by
    rw [LooseText.ofString, String.toList_ofList], LooseText.trim_ofString,
    LooseText.shown_ofString] at found
  have named := Field.name_of_ofName? found
  rw [parts] at dash
  cases before with
  | nil =>
    cases equals
    cases dash
  | cons first others =>
    obtain rfl : first = '-' := by simpa using dash
    have front : (trim (String.ofList ('-' :: others))).toList.head? = some '-' := by
      rw [trim, String.toList_ofList, String.toList_ofList]
      exact head?_trim (by decide)
    rw [← named] at front
    revert front
    cases field <;> decide

/-! ### One option after the other -/

/-- The arguments with an option of a command. -/
def withOption (arguments : Arguments) : SettingsOption → Arguments
  | .reset => { arguments with resetSettings := true }
  | .assign _ field value _ => withAssignment arguments (some (field, value))

/-- What the words of an option are. -/
def kinds : SettingsOption → List (String × WordKind)
  | .reset => [("--reset-settings", .switch ⟨.resetSettings, "--reset-settings", none⟩)]
  | .assign text _ _ _ => [("--set", .switch ⟨.set, "--set", none⟩), (text, .plain)]

theorem classify_of_accepted (accepted : parseAssignment text = .ok (field, value)) :
    classify text = .ok .plain := by
  have first := head?_ne_of_accepted accepted
  have apart : text ≠ "--" := by
    rintro rfl
    exact first (by decide)
  rw [classify, if_neg (by simpa using apart), if_pos (by simpa using first)]

/-- Words that are no separators are classified one by one. -/
theorem classifyAll_cons {word : String} {kind : WordKind} {rest : List String}
    {kinds : List (String × WordKind)} (here : classify word = .ok kind)
    (inside : kind ≠ .separator) (later : classifyAll rest = .ok kinds) :
    classifyAll (word :: rest) = .ok ((word, kind) :: kinds) := by
  rw [classifyAll, here]
  cases kind with
  | separator => exact absurd rfl inside
  | _ =>
    simp only [later]
    rfl

theorem classifyAll_words (options : List SettingsOption) :
    classifyAll (options.flatMap SettingsOption.words) = .ok (options.flatMap kinds) := by
  induction options with
  | nil => rfl
  | cons option options ih =>
    rw [List.flatMap_cons, List.flatMap_cons]
    cases option with
    | reset =>
      have reset : classify "--reset-settings"
          = .ok (.switch ⟨.resetSettings, "--reset-settings", none⟩) := by decide +kernel
      exact classifyAll_cons reset nofun ih
    | assign text field value accepted =>
      have set : classify "--set" = .ok (.switch ⟨.set, "--set", none⟩) := by decide +kernel
      exact classifyAll_cons set nofun
        (classifyAll_cons (classify_of_accepted accepted) nofun ih)

/-- The words of options are read into the arguments. -/
theorem readWords_kinds (options : List SettingsOption) (arguments : Arguments) :
    readWords ⟨arguments, .fresh, []⟩ (options.flatMap kinds)
      = .ok ⟨options.foldl withOption arguments, .fresh, []⟩ := by
  induction options generalizing arguments with
  | nil => rfl
  | cons option options ih =>
    rw [List.flatMap_cons, List.foldl_cons]
    cases option with
    | reset => exact ih { arguments with resetSettings := true }
    | assign text field value accepted =>
      have apart : text ≠ blankMark := by
        rintro rfl
        exact head?_ne_of_accepted accepted (by decide)
      have read : apply arguments (.set, some text)
          = .ok (withAssignment arguments (some (field, value))) := by
        have full : (Switch.takesValue .set && some text == some blankMark) = false := by
          simpa [Switch.takesValue] using apart
        simp only [apply, full, Bool.false_eq_true, if_false, applyValue, Option.getD_some,
          accepted]
      have settings : Reading.withSettings ⟨arguments, .fresh, []⟩ [(.set, some text)]
          = .ok ⟨withAssignment arguments (some (field, value)), .fresh, []⟩ := by
        rw [Reading.withSettings, List.foldlM_cons, read]
        rfl
      have first : readWords ⟨arguments, .fresh, []⟩
            (("--set", .switch ⟨.set, "--set", none⟩) :: (text, .plain) :: options.flatMap kinds)
          = readWords ⟨withAssignment arguments (some (field, value)), .fresh, []⟩
            (options.flatMap kinds) := by
        have expanded : expand ⟨.set, "--set", none⟩ = .ok [(.set, none)] := rfl
        have lacking : lacking? [(.set, none)] = some .set := rfl
        have supplied : supply [(.set, none)] .set text = [(.set, some text)] := rfl
        have begun : Reading.endRun ⟨arguments, .fresh, []⟩ = ⟨arguments, .fresh, []⟩ := rfl
        rw [readWords]
        simp only [expanded, lacking, supplied, begun, settings]
      exact first.trans (ih _)

/-- What options make of arguments: whether one of them goes back to the defaults, and all
assignments in their order. -/
theorem foldl_withOption (options : List SettingsOption) (arguments : Arguments) :
    (options.foldl withOption arguments).resetSettings
        = (arguments.resetSettings || options.any SettingsOption.isReset)
      ∧ (options.foldl withOption arguments).assignments.getD []
        = arguments.assignments.getD []
          ++ (options.filterMap SettingsOption.assignment?).map some
      ∧ (options.foldl withOption arguments).verbose = arguments.verbose := by
  induction options generalizing arguments with
  | nil => simp
  | cons option options ih =>
    obtain ⟨resets, assignments, verbose⟩ := ih (withOption arguments option)
    rw [List.foldl_cons, resets, assignments, verbose]
    cases option with
    | reset =>
      simp [withOption, SettingsOption.isReset, SettingsOption.assignment?, List.filterMap_cons]
    | assign text field value accepted =>
      simp [withOption, withAssignment, SettingsOption.isReset, SettingsOption.assignment?]

/-- **The words of a command are read as the command**: it goes back to the defaults if it says so
anywhere, and has its assignments in their order. -/
theorem parseArguments_words (command : SettingsCommand) :
    ∃ arguments, parseArguments command.words = .ok arguments
      ∧ arguments.resetSettings = command.resets
      ∧ arguments.assignments.getD [] = command.assignments.map some
      ∧ arguments.verbose = false := by
  obtain ⟨resets, assignments, verbose⟩ := foldl_withOption command.options noArguments
  refine ⟨command.options.foldl withOption noArguments, ?_, ?_, ?_, verbose⟩
  · rw [parseArguments, SettingsCommand.words, classifyAll_words]
    simp only [Reading.start, readWords_kinds]
    rfl
  · rw [resets]
    exact Bool.false_or _
  · rw [assignments]
    rfl

/-- A command is about settings. -/
theorem isAboutSettings_of_command {arguments : Arguments} (command : SettingsCommand)
    (resets : arguments.resetSettings = command.resets)
    (assignments : arguments.assignments.getD [] = command.assignments.map some) :
    App.isAboutSettings arguments = true := by
  obtain ⟨options, asked⟩ := command
  rw [App.isAboutSettings, resets, assignments]
  cases options with
  | nil => exact absurd rfl asked
  | cons option options =>
    cases option with
    | reset => rfl
    | assign text field value accepted =>
      simp [SettingsCommand.assignments, SettingsOption.assignment?]

end Words

end CommandLine

end AssetFetch
