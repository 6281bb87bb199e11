/-
**The program on a terminal.**

The outer layer carries out effects on the files and on the terminal of the machine, and decides
nothing else. Neither a network nor a keyring is within reach: every request fails, and a token is
kept as long as the program runs.

* `Machine`: what is kept between effects;
* `answer`: the reply of the machine to an effect;
* `host`, `operator`: the machine and the user at its terminal as those who carry out a run;
* `main`: a run with the words of the command line.
-/

import AssetFetch.App
import Std.Time.DateTime

namespace AssetFetch.Terminal

/-- What is kept between effects: how the log is set up, the open files, the token and the line of
progress. -/
structure Machine where
  setup : LogSetup
  logFile : Option IO.FS.Handle
  file : Option IO.FS.Handle
  token : Option String
  line : ProgressLine

/-- The machine before the first effect. -/
def Machine.start : Machine := ⟨.start, none, none, none, .start⟩

/-- What happens on the machine. -/
abbrev Session := StateT Machine IO

/-! ### The terminal -/

/-- Writes text for the user. -/
def tell (text : String) : Session Unit := do
  let stream ← IO.getStderr
  stream.putStr text
  stream.flush

/-- Prints a text, unless half of a pair is in it. -/
def print (text : Text.LooseText) : Session (Except Failure Unit) := do
  match text.unencodable? with
  | some fault => return .error (.unencodable fault)
  | none =>
    let stream ← IO.getStdout
    stream.putStr text.shown
    stream.flush
    return .ok ()

/-- Reads a line, nothing at the end of input. -/
def readLine : Session (Option String) := do
  let line ← (← IO.getStdin).getLine
  return if line.isEmpty then none else some (String.ofList (line.toList.filter (· != '\n')))

/-- The time now, in the zone of no offset, to the second. -/
def now : IO Timestamp := do
  let moment ← Std.Time.Timestamp.now
  let here := Std.Time.PlainDateTime.ofWallTime (moment.toWallTime Std.Time.TimeZone.Offset.zero)
  return {
    date := ⟨here.date.year.toInt.toNat, here.date.month.toNat, here.date.day.toNat⟩
    hour := here.time.hour.toNat
    minute := here.time.minute.toNat
    second := here.time.second.toNat
    microsecond := 0
    offset := none }

/-- The time as it stands in log lines. -/
def timeText : IO String := do
  let characters := (← now).chars
  return String.ofList
    (characters.map fun character => if character == 'T' then ' ' else character)

/-- Writes a line to the log. -/
def writeLog (record : LogLine) : Session Unit := do
  let machine ← get
  if machine.setup.accepts record then
    let line := record.written (← timeText) ++ "\n"
    if let some level := machine.setup.console then
      if level ≤ record.level.value then tell line
    if let some (level, _) := machine.setup.file then
      if let some handle := machine.logFile then
        if level ≤ record.level.value then
          handle.putStr line
          handle.flush

/-! ### Files -/

/-- The number and the text of an error. -/
def numberAndReason : IO.Error → Nat × String
  | .alreadyExists _ number reason => (number.toNat, reason)
  | .invalidArgument _ number reason => (number.toNat, reason)
  | .permissionDenied _ number reason => (number.toNat, reason)
  | .resourceExhausted _ number reason => (number.toNat, reason)
  | .inappropriateType _ number reason => (number.toNat, reason)
  | .noSuchThing _ number reason => (number.toNat, reason)
  | .interrupted _ number reason => (number.toNat, reason)
  | .noFileOrDirectory _ number reason => (number.toNat, reason)
  | .otherError number reason => (number.toNat, reason)
  | .resourceBusy number reason => (number.toNat, reason)
  | .resourceVanished number reason => (number.toNat, reason)
  | .unsupportedOperation number reason => (number.toNat, reason)
  | .hardwareFault number reason => (number.toNat, reason)
  | .unsatisfiedConstraints number reason => (number.toNat, reason)
  | .illegalOperation number reason => (number.toNat, reason)
  | .protocolError number reason => (number.toNat, reason)
  | .timeExpired number reason => (number.toNat, reason)
  | .unexpectedEof => (5, "Input/output error")
  | .userError reason => (5, reason)

/-- The outcome of something done with files. -/
def attempting {α : Type} (paths : List Path) (action : IO α) : Session (Except Failure α) := do
  match ← action.toBaseIO with
  | .ok value => return .ok value
  | .error error =>
    let (number, reason) := numberAndReason error
    return .error (.system (.numbered number reason paths))

/-- Whether the bit of a right is among permission bits. -/
def hasRight (mode bit : Nat) : Bool :=
  mode &&& bit != 0

/-- The rights that permission bits give. -/
def rightsOf (mode : Nat) : IO.FileRight where
  user := ⟨hasRight mode 0o400, hasRight mode 0o200, hasRight mode 0o100⟩
  group := ⟨hasRight mode 0o040, hasRight mode 0o020, hasRight mode 0o010⟩
  other := ⟨hasRight mode 0o004, hasRight mode 0o002, hasRight mode 0o001⟩

/-- Gives a file the rights of permission bits. -/
def giveRights (path : Path) (mode : Nat) : IO Unit :=
  IO.setAccessRights path.text (rightsOf mode)

/-- Opens the file to which bytes are going to be added. -/
def opening (path : Path) (mode : IO.FS.Mode) (prepare : IO Unit) :
    Session (Except Failure Unit) := do
  let outcome ← attempting [path] do
    let handle ← IO.FS.Handle.mk path.text mode
    prepare
    return handle
  match outcome with
  | .ok handle =>
    modify fun machine => { machine with file := some handle }
    return .ok ()
  | .error failure => return .error failure

/-- Whether a path names a directory, which nothing can be read from. -/
def isDirectory (path : Path) : IO Bool := do
  try
    let handle ← IO.FS.Handle.mk path.text .read
    discard (handle.read 1)
    return false
  catch error =>
    match FileFault.isDirectory.number == (numberAndReason error).1,
      FileFault.denied.number == (numberAndReason error).1 with
    | true, _ => return true
    | _, true => return false
    | _, _ => throw error

/-- The reply to an action on files. -/
def onFile : (action : FileAction) → Session (Except Failure action.Result)
  | .create path mode =>
    match mode with
    | .blank => return .error (.notAnInteger .list)
    | .absent => opening path .writeNew (giveRights path (FileTree.newMode FileTree.plainMode))
    | .value mode => opening path .writeNew (giveRights path (FileTree.newMode mode))
  | .overwrite path => opening path .write (return ())
  | .append path bytes => do
    match (← get).file with
    | some handle => attempting [path] do
      handle.write ⟨bytes.toArray⟩
      handle.flush
    | none => return .ok ()
  | .flush _ => return .ok ()
  | .sync _ => return .ok ()
  | .close _ => do
    modify fun machine => { machine with file := none }
    return .ok ()
  | .setMode path mode =>
    attempting [path] (giveRights path (FileTree.modeBits mode))
  | .rename source target => attempting [source, target] (IO.FS.rename source.text target.text)
  | .remove path => attempting [path] (IO.FS.removeFile path.text)
  | .makeDirectory path => attempting [path] (IO.FS.createDir path.text)
  | .isDirectory path => attempting [path] (isDirectory path)
  | .read path => attempting [path] do return (← IO.FS.readBinFile path.text).data.toList

/-- The reply to the wish for a log file. -/
def openLog (path : Path) (level : Int) : Session (Except Failure Unit) := do
  match ← attempting [path] (IO.FS.Handle.mk path.text .append) with
  | .ok handle =>
    modify fun machine =>
      { machine with
        logFile := some handle
        setup := { machine.setup with file := some (level, path) } }
    return .ok ()
  | .error failure => return .error failure

/-! ### Effects -/

/-- The reply to a use of the token. -/
def onKeyring : (action : KeyringAction) → Session (Except Failure action.Result)
  | .get => return .ok (← get).token
  | .set token => do
    modify fun machine => { machine with token := some token }
    return .ok ()
  | .delete => do
    match (← get).token with
    | some _ =>
      modify fun machine => { machine with token := none }
      return .ok ()
    | none => return .error World.nothingToDelete

/-- The failure of every request. -/
def unreachable : Failure :=
  .network ⟨.connection, "no network within reach"⟩

/-- The reply of the machine to an effect. -/
def answer : (effect : Effect) → Session effect.Reply
  | .file action => onFile action
  | .keyring action => onKeyring action
  | .send _ => return .error unreachable
  | .close => return ()
  | .log record => writeLog record
  | .setUpLog level console =>
    modify fun machine =>
      { machine with setup := ⟨level, if console then some level else none, none⟩, logFile := none }
  | .openLog path level => openLog path level
  | .print text => print text
  | .tell text => tell text
  | .randomName => do
    return String.ofList (Text.hexDigits 10 (← IO.rand 0 0xFFFFFFFFFF))
  | .isCancelled => return false
  | .announce title => modify fun machine => { machine with line := .begin title }
  | .report percent _ => do
    let line := (← get).line
    modify fun machine => { machine with line := line.report percent }
    tell (line.text percent)
  | .progress _ _ => return .ok ()

/-! ### Questions -/

/-- Asks until a line chooses an option or input ends. -/
partial def readChoice : Session (Except Failure (Option Choice)) := do
  tell Console.choicePrompt
  match ← readLine with
  | none => return .ok none
  | some line =>
    match Console.choiceOf line with
    | .error failure => return .error failure
    | .ok (some choice) => return .ok (some choice)
    | .ok none =>
      tell Console.choiceReminder
      readChoice

/-- Shows a message and asks for a choice. -/
def askHowToGoOn (message : String) : Session (Except Failure (Option Choice)) := do
  tell (message ++ "\n" ++ Console.menu)
  readChoice

/-- Shows an explanation and asks for a token. -/
def askForToken (current : Option String) (explanation : String) :
    Session (Except Failure (Option String)) := do
  let question := Console.askForToken current explanation []
  tell (question.text ++ String.join question.prompts)
  let lines := (← readLine).toList.map Line.text
  return (Console.askForToken current explanation lines).answer

/-! ### Runs -/

/-- The machine carries out effects, and the user at its terminal is asked. -/
def host : Host Session where
  answer := answer
  askHowToGoOn := askHowToGoOn
  askForToken := askForToken

/-- Attempts an action until it succeeds or the user gives up. -/
partial def withRetry {α : Type} (action : Action α) : Session (Except Failure α) := do
  match ← host.round action with
  | some outcome => return outcome
  | none => withRetry action

/-- The machine with the loop of attempts. -/
def operator : Operator Session :=
  { host with retry := withRetry }

/-- The exit code of an end. What nothing answers is told to the user. -/
def exitCode : App.Ending → Session Nat
  | .exit code => return code
  | .stopped none => return 0
  | .stopped (some text) => do
    tell (text ++ "\n")
    return 1
  | .failed failure => do
    tell (failure.message ++ "\n")
    return 1

/-- A whole run. -/
def run (words : List String) (environment : Environment) : Session Nat := do
  exitCode (← operator.run words environment)

/-- The variables of the machine's environment. -/
def environment : IO Environment := do
  return {
    platform := .other
    home := (← IO.getEnv "HOME").getD "~"
    configHome := ← IO.getEnv "XDG_CONFIG_HOME"
    appData := none
    depths := .usual }

end AssetFetch.Terminal

/-- A run with the words of the command line. -/
def main (words : List String) : IO UInt32 := do
  let session := AssetFetch.Terminal.run words (← AssetFetch.Terminal.environment)
  let (code, _) ← session.run .start
  return code.toUInt32
