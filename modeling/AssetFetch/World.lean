/-
**A scripted world.**

A world in which programs run without touching anything outside: files in a tree, a network that
answers from a script, a keyring, a log, and a record of everything that was asked and written.

* `World`: the state;
* `World.answer`: the reply to an effect, and the world after it;
* `World.run`, `World.attempt`: a program and an action in a world.
-/

import AssetFetch.Logging
import AssetFetch.Progress

namespace AssetFetch

/-- Failures of operations on files that are to happen whatever the files are like. -/
structure FileFaults where
  rename : Option Failure
  sync : Option Failure
  setMode : Option Failure
  remove : Option Failure
  deriving Inhabited

/-- No failures but those that the files call for. -/
def FileFaults.none : FileFaults := ⟨.none, .none, .none, .none⟩

/-- Failures of the keyring that are to happen. -/
structure KeyringFaults where
  get : Option Failure
  set : Option Failure
  delete : Option Failure
  deriving Inhabited

/-- A keyring that works. -/
def KeyringFaults.none : KeyringFaults := ⟨.none, .none, .none⟩

/-- A keyring: the token in it, and the calls that were made. -/
structure Keyring where
  token : Option String
  faults : KeyringFaults
  calls : List KeyringAction
  deriving Inhabited

/-- A follower of byte counts, who may wish to stop or fail at a call of some number, and who keeps
the counts and, if they are of interest, the files as they were. -/
structure Follower where
  cancelAt : Option Nat
  failAt : Option (Nat × Failure)
  keepsFiles : Bool
  calls : List (Nat × Nat)
  seen : List FileTree
  deriving Inhabited

/-- A follower who wishes nothing and has been told nothing. -/
def Follower.start : Follower := ⟨none, none, false, [], []⟩

/-- A display of percents: everything it was told, and the line it shows if it shows one. -/
structure Display where
  line : Option ProgressLine
  titles : List String
  reports : List PercentTracker.Report
  deriving Inhabited

/-- The state of a world. The file of the log is open until another file takes its place. -/
structure World where
  tree : FileTree
  faults : FileFaults
  script : List (Except Failure Response)
  requests : List Request
  closed : List Bool
  keyring : Keyring
  records : List LogLine
  setup : LogSetup
  logFile : Option Location
  output : String
  told : String
  name : String
  cancelled : Bool
  follower : Follower
  display : Display
  deriving Inhabited

namespace World

/-- The suffix of new files. -/
def defaultName : String := "0123456789"

/-- The time of every log line. -/
def time : String := "2021-03-15 10:30:00"

/-- A world with nothing in it. -/
def empty : World :=
  { tree := .empty
    faults := .none
    script := []
    requests := []
    closed := []
    keyring := ⟨none, .none, []⟩
    records := []
    setup := .start
    logFile := none
    output := ""
    told := ""
    name := defaultName
    cancelled := false
    follower := .start
    display := ⟨none, [], []⟩ }

/-! ### Files -/

/-- The reply to an operation that changes files. -/
def changing (world : World) (paths : List Path) (result : Except FileFault FileTree) :
    Except Failure Unit × World :=
  match result with
  | .ok tree => (.ok (), { world with tree })
  | .error fault => (.error (.ofFile paths fault), world)

/-- The world without the open log file, if it was at a place. -/
def withoutLogAt (world : World) (path : Path) : World :=
  match world.logFile, world.tree.locate path with
  | some location, .ok (.named other) =>
    if location == other then { world with logFile := none } else world
  | _, _ => world

/-- The least and the greatest permission bits that can be handed over. -/
def modeRange : Int × Int := (-0x80000000, 0x7FFFFFFF)

/-- The reply to an operation with permission bits. -/
def withMode (world : World) (path : Path) (mode : Given Int)
    (result : Int → Except FileFault FileTree) : Except Failure Unit × World :=
  match FileTree.systemNames path, mode with
  | .error .nullCharacter, _ => (.error .nullInPath, world)
  | .error (.unencodable fault), _ => (.error (.unencodable fault), world)
  | _, .absent => world.changing [path] (result FileTree.plainMode)
  | _, .blank => (.error (.notAnInteger .list), world)
  | _, .value mode =>
    if mode < modeRange.1 || modeRange.2 < mode then (.error .modeTooLarge, world)
    else world.changing [path] (result mode)

/-- The reply to an operation on files. -/
def onFile (world : World) : (action : FileAction) → Except Failure action.Result × World
  | .create path mode => world.withMode path mode (world.tree.createNew path)
  | .overwrite path =>
    world.changing [path] ((world.tree.openForWriting path false).map Prod.snd)
  | .append path bytes => world.changing [path] (world.tree.append path bytes)
  | .flush _ => (.ok (), world)
  | .close _ => (.ok (), world)
  | .sync _ =>
    match world.faults.sync with
    | some failure => (.error failure, world)
    | none => (.ok (), world)
  | .setMode path mode =>
    match world.faults.setMode with
    | some failure => (.error failure, world)
    | none => world.withMode path (.value mode) (world.tree.setMode path)
  | .rename source target =>
    match world.faults.rename with
    | some failure => (.error failure, world)
    | none =>
      match world.tree.rename source target with
      | .ok tree => (.ok (), { world.withoutLogAt target with tree })
      | .error fault => (.error (.ofFile [source, target] fault), world)
  | .remove path =>
    match world.faults.remove with
    | some failure => (.error failure, world)
    | none =>
      match world.tree.remove path with
      | .ok tree => (.ok (), { world.withoutLogAt path with tree })
      | .error fault => (.error (.ofFile [path] fault), world)
  | .makeDirectory path => world.changing [path] (world.tree.makeDirectory path)
  | .isDirectory path =>
    match world.tree.status path with
    | .ok entry => (.ok (entry == .directory), world)
    | .error fault => (.error (.ofFile [path] fault), world)
  | .read path => ((world.tree.read path).mapError (Failure.ofFile [path]), world)

/-! ### Keyring and network -/

/-- The world with a call of the keyring noted. -/
def noteCall (world : World) (action : KeyringAction) : World :=
  { world with keyring := { world.keyring with calls := world.keyring.calls ++ [action] } }

/-- The world with another token in the keyring. -/
def withToken (world : World) (token : Option String) : World :=
  { world with keyring := { world.keyring with token } }

/-- What a keyring says when there is nothing to delete. -/
def nothingToDelete : Failure :=
  .keyring ⟨.nothingToDelete, "not found"⟩

/-- The reply of the keyring. -/
def onKeyring (world : World) : (action : KeyringAction) → Except Failure action.Result × World
  | .get =>
    match world.keyring.faults.get with
    | some failure => (.error failure, world.noteCall .get)
    | none => (.ok world.keyring.token, world.noteCall .get)
  | .set token =>
    match world.keyring.faults.set with
    | some failure => (.error failure, world.noteCall (.set token))
    | none => (.ok (), (world.noteCall (.set token)).withToken (some token))
  | .delete =>
    match world.keyring.faults.delete, world.keyring.token with
    | some failure, _ => (.error failure, world.noteCall .delete)
    | none, none => (.error nothingToDelete, world.noteCall .delete)
    | none, some _ => (.ok (), (world.noteCall .delete).withToken none)

/-- What a request meets when the script has ended. -/
def noMoreResponses : Failure :=
  .network ⟨.connection, "no more scripted responses"⟩

/-- The reply of the network. -/
def onSend (world : World) (request : Request) : Except Failure Response × World :=
  let asked := { world with requests := world.requests ++ [request] }
  match world.script with
  | [] => (.error noMoreResponses, asked)
  | .error failure :: script => (.error failure, { asked with script })
  | .ok response :: script =>
    (.ok response, { asked with script, closed := asked.closed ++ [false] })

/-- The world with the response that came last closed. -/
def closeLast (world : World) : World :=
  { world with closed := world.closed.dropLast ++ [true] }

/-! ### Terminal and log -/

/-- The world with text told to the user. -/
def tell (world : World) (text : String) : World :=
  { world with told := world.told ++ text }

/-- The reply to the wish to print a text. Half of a pair cannot be printed, nor can anything of a
text that has one. -/
def print (world : World) (text : Text.LooseText) : Except Failure Unit × World :=
  match text.unencodable? with
  | some fault => (.error (.unencodable fault), world)
  | none => (.ok (), { world with output := world.output ++ text.shown })

/-- The world with a line written to the terminal if it reaches the terminal's level. -/
def toConsole (world : World) (record : LogLine) (line : String) : World :=
  match world.setup.console with
  | some level => if level ≤ record.level.value then world.tell line else world
  | none => world

/-- The world with a line written to the log file if it reaches the file's level. -/
def toLogFile (world : World) (record : LogLine) (line : String) : World :=
  match world.setup.file, world.logFile with
  | some (level, _), some location =>
    if level ≤ record.level.value then
      { world with tree := world.tree.appendAt location (Text.encode line) }
    else world
  | _, _ => world

/-- The world with a line logged. -/
def log (world : World) (record : LogLine) : World :=
  let noted := { world with records := world.records ++ [record] }
  if world.setup.accepts record then
    let line := record.written time ++ "\n"
    (noted.toConsole record line).toLogFile record line
  else noted

/-- The world with the log set up, without a file. -/
def setUpLog (world : World) (level : Int) (console : Bool) : World :=
  { world with setup := ⟨level, if console then some level else none, none⟩, logFile := none }

/-- The reply to the wish for a log file. -/
def openLog (world : World) (path : Path) (level : Int) : Except Failure Unit × World :=
  match world.tree.openForWriting path true with
  | .error fault => (.error (.ofFile [path] fault), world)
  | .ok (location, tree) =>
    (.ok (), { world with
      tree
      setup := { world.setup with file := some (level, path) }
      logFile := some location })

/-! ### Progress -/

/-- The world after a title. -/
def announce (world : World) (title : String) : World :=
  let display := world.display
  { world with display := { display with
    titles := display.titles ++ [title]
    line := display.line.map fun _ => .begin title } }

/-- The world after a report. -/
def report (world : World) (percent delta : Int) : World :=
  let display := { world.display with reports := world.display.reports ++ [⟨percent, delta⟩] }
  match world.display.line with
  | some line =>
    { world with display := { display with line := some (line.report percent) } }.tell
      (line.text percent)
  | none => { world with display }

/-- The reply of the follower of byte counts. -/
def progress (world : World) (read total : Nat) : Except Failure Unit × World :=
  let follower := world.follower
  let calls := follower.calls ++ [(read, total)]
  let seen := if follower.keepsFiles then follower.seen ++ [world.tree] else follower.seen
  let next := { world with
    follower := { follower with calls, seen }
    cancelled := world.cancelled || follower.cancelAt == some calls.length }
  match follower.failAt with
  | some (number, failure) =>
    if number == calls.length then (.error failure, next) else (.ok (), next)
  | none => (.ok (), next)

/-! ### All effects -/

/-- The reply to an effect, and the world after it. -/
def answer (world : World) : (effect : Effect) → effect.Reply × World
  | .file action => world.onFile action
  | .keyring action => world.onKeyring action
  | .send request => world.onSend request
  | .close => ((), world.closeLast)
  | .log record => ((), world.log record)
  | .setUpLog level console => ((), world.setUpLog level console)
  | .openLog path level => world.openLog path level
  | .print text => world.print text
  | .tell text => ((), world.tell text)
  | .randomName => (world.name, world)
  | .isCancelled => (world.cancelled, world)
  | .announce title => ((), world.announce title)
  | .report percent delta => ((), world.report percent delta)
  | .progress read total => world.progress read total

/-- The result of a program in a world, and the world after it. -/
def run {α : Type} (program : Program α) (world : World) : α × World :=
  match program with
  | .done value => (value, world)
  | .ask effect next =>
    let reply := world.answer effect
    run (next reply.1) reply.2

/-- The outcome of an action in a world, and the world after it. -/
def attempt {α : Type} (action : Action α) (world : World) : Except Failure α × World :=
  world.run action.outcome

end World

end AssetFetch
