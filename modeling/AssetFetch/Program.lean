/-
**Programs.**

What the program does to its surroundings is a sequence of effects, each with a reply on which the
rest may depend. A program is the tree of all such sequences; who runs it decides what the effects
mean.

* `Effect`, `Effect.Reply`: what can be asked of the surroundings, and what comes back;
* `Program`: finitely many effects and a result;
* `Program.interpret`: runs a program in any monad that answers the effects;
* `Action`: a program that may fail, with `orElse`, `whatever` and one function per effect.
-/

import AssetFetch.Given
import AssetFetch.Response

namespace AssetFetch

/-! ### Effects -/

/-- What can be done to files. -/
inductive FileAction where
  | create (path : Path) (mode : Given Int)
  | overwrite (path : Path)
  | append (path : Path) (bytes : Bytes)
  | flush (path : Path)
  | sync (path : Path)
  | close (path : Path)
  | setMode (path : Path) (mode : Int)
  | rename (source target : Path)
  | remove (path : Path)
  | makeDirectory (path : Path)
  | isDirectory (path : Path)
  | read (path : Path)
  deriving DecidableEq, Repr, Inhabited

/-- What an action on files gives when it is not refused. -/
def FileAction.Result : FileAction → Type
  | isDirectory _ => Bool
  | read _ => Bytes
  | _ => Unit

/-- What can be done to the keyring. -/
inductive KeyringAction where
  | get
  | set (token : String)
  | delete
  deriving DecidableEq, Repr, Inhabited

/-- What an action on the keyring gives when it does not fail. -/
def KeyringAction.Result : KeyringAction → Type
  | get => Option String
  | _ => Unit

/-- The level of a line: a number, or a truth value that counts as one. -/
inductive Level where
  | number (value : Int)
  | flag (raised : Bool)
  deriving DecidableEq, Repr, Inhabited

/-- The number that a level counts as. -/
def Level.value : Level → Int
  | number value => value
  | flag raised => Value.ofFlag raised

/-- A line for the log. -/
structure LogLine where
  level : Level
  logger : String
  message : String
  deriving DecidableEq, Repr, Inhabited

/-- What can be asked of the surroundings. -/
inductive Effect where
  | file (action : FileAction)
  | keyring (action : KeyringAction)
  | send (request : Request)
  | close
  | log (record : LogLine)
  | setUpLog (level : Int) (console : Bool)
  | openLog (path : Path) (level : Int)
  | print (text : Text.LooseText)
  | tell (text : String)
  | randomName
  | isCancelled
  | announce (title : String)
  | report (percent delta : Int)
  | progress (read total : Nat)
  deriving Inhabited

/-- What comes back. -/
def Effect.Reply : Effect → Type
  | file action => Except Failure action.Result
  | keyring action => Except Failure action.Result
  | send _ => Except Failure Response
  | openLog _ _ => Except Failure Unit
  | print _ => Except Failure Unit
  | randomName => String
  | isCancelled => Bool
  | progress _ _ => Except Failure Unit
  | _ => Unit

/-! ### Programs -/

/-- Effects and what to do with their replies, down to a result. -/
inductive Program (α : Type) : Type where
  | done (value : α)
  | ask (effect : Effect) (next : effect.Reply → Program α)

namespace Program

/-- Goes on with the result of a program. -/
def andThen {α β : Type} (program : Program α) (next : α → Program β) : Program β :=
  match program with
  | done value => next value
  | ask effect rest => ask effect fun reply => (rest reply).andThen next

instance : Monad Program where
  pure := done
  bind := andThen

/-- Runs a program where effects are answered in a monad. -/
def interpret {m : Type → Type} [Monad m] {α : Type}
    (answer : (effect : Effect) → m effect.Reply) : Program α → m α
  | done value => pure value
  | ask effect next => do
    let reply ← answer effect
    (next reply).interpret answer

end Program

/-- A single effect. -/
def perform (effect : Effect) : Program effect.Reply :=
  .ask effect .done

/-! ### Actions -/

/-- A program that may fail. -/
abbrev Action := ExceptT Failure Program

namespace Action

/-- The outcome of an action, as a program. -/
def outcome {α : Type} (action : Action α) : Program (Except Failure α) :=
  action.run

/-- A program that does not fail. -/
def ofProgram {α : Type} (program : Program α) : Action α :=
  ExceptT.lift program

/-- An action with a known outcome. -/
def ofExcept {α : Type} (result : Except Failure α) : Action α :=
  ExceptT.mk (pure result)

/-- A single effect that may fail. -/
def attempt {α : Type} (program : Program (Except Failure α)) : Action α :=
  ExceptT.mk program

/-- Another action in place of a failed one. -/
def orElse {α : Type} (action : Action α) (handler : Failure → Action α) : Action α :=
  ExceptT.mk do
    match ← action.outcome with
    | .ok value => return .ok value
    | .error failure => (handler failure).outcome

/-- The second action after the first, whatever the first comes to. -/
def whatever {α : Type} (action : Action α) (last : Action Unit) : Action α :=
  ExceptT.mk do
    match ← action.outcome with
    | .ok value => (do last; pure value : Action α).outcome
    | .error failure => (do last; throw failure : Action α).outcome

end Action

/-! ### One function per effect -/

namespace Files

/-- Creates a file where nothing is; without permission bits the usual ones are meant. -/
def create (path : Path) (mode : Given Int) : Action Unit :=
  .attempt (perform (.file (.create path mode)))

/-- Opens a file for writing from its start, creating it if needed. -/
def overwrite (path : Path) : Action Unit :=
  .attempt (perform (.file (.overwrite path)))

/-- Adds bytes to an open file. They may be held back until it is flushed or closed, and so may the
failure to write them. -/
def append (path : Path) (bytes : Bytes) : Action Unit :=
  .attempt (perform (.file (.append path bytes)))

/-- Writes what is held back. -/
def flush (path : Path) : Action Unit :=
  .attempt (perform (.file (.flush path)))

/-- Waits until a file is on the disk. -/
def sync (path : Path) : Action Unit :=
  .attempt (perform (.file (.sync path)))

/-- Closes an open file, once what is held back has been written. -/
def close (path : Path) : Action Unit :=
  .attempt (perform (.file (.close path)))

/-- Sets permission bits. -/
def setMode (path : Path) (mode : Int) : Action Unit :=
  .attempt (perform (.file (.setMode path mode)))

/-- Moves a file to another place. -/
def rename (source target : Path) : Action Unit :=
  .attempt (perform (.file (.rename source target)))

/-- Removes a file. -/
def remove (path : Path) : Action Unit :=
  .attempt (perform (.file (.remove path)))

/-- Makes a directory. -/
def makeDirectory (path : Path) : Action Unit :=
  .attempt (perform (.file (.makeDirectory path)))

/-- Whether a path names a directory; fails if it names nothing. -/
def status (path : Path) : Action Bool :=
  .attempt (perform (.file (.isDirectory path)))

/-- The bytes of a file. -/
def read (path : Path) : Action Bytes :=
  .attempt (perform (.file (.read path)))

/-- Whether a failure says that a path names nothing. A path that the system does not take names
nothing either. -/
def saysNothingThere : Failure → Bool
  | .system (.numbered number _ _) => number == 2 || number == 20 || number == 9 || number == 40
  | .nullInPath => true
  | .unencodable _ => true
  | _ => false

/-- Whether a path names a directory, where one that names nothing does not. -/
def isDirectory (path : Path) : Action Bool :=
  (status path).orElse fun failure =>
    if saysNothingThere failure then return false else throw failure

/-- Whether a path names anything. -/
def exists? (path : Path) : Action Bool :=
  (do discard (status path); return true : Action Bool).orElse fun failure =>
    if saysNothingThere failure then return false else throw failure

/-- Removes a file if it is there. -/
def removeIfPresent (path : Path) : Action Unit :=
  (remove path).orElse fun failure => if failure.isNotFound then return () else throw failure

/-- Makes a directory unless it is there. -/
def ensureOne (path : Path) (otherwise : Failure → Action Unit) : Action Unit :=
  (makeDirectory path).orElse fun failure =>
    if failure.isNotFound then otherwise failure
    else if failure.isSystem then do
      if ← isDirectory path then return () else throw failure
    else throw failure

/-- Makes the directory of the first names of a path and those above it, as far as they are
missing. -/
def ensureAbove (slashes : Nat) : (reversed : List Text.LooseText) → Action Unit
  | [] => ensureOne ⟨slashes, []⟩ throw
  | name :: above =>
    let path : Path := ⟨slashes, (name :: above).reverse⟩
    ensureOne path fun _ => do
      ensureAbove slashes above
      ensureOne path throw

/-- Makes a directory and those above it, as far as they are missing. -/
def ensureDirectory (path : Path) : Action Unit :=
  ensureAbove path.slashes path.names.reverse

end Files

/-- The levels of log lines. -/
inductive Severity where
  | debug
  | info
  | warning
  | error
  deriving DecidableEq, Repr, Inhabited

/-- The number of a level. -/
def Severity.number : Severity → Int
  | debug => 10
  | info => 20
  | warning => 30
  | error => 40

/-- Writes a line to the log. -/
def logLine (severity : Severity) (logger message : String) : Program Unit :=
  perform (.log ⟨.number severity.number, logger, message⟩)

/-- Writes a line to the log. -/
def log (severity : Severity) (logger message : String) : Action Unit :=
  .ofProgram (logLine severity logger message)

/-- Prints a line. -/
def printLine (text : Text.LooseText) : Action Unit :=
  .attempt (perform (.print (text ++ ("\n" : Text.LooseText))))

/-- Tells the user a line. -/
def tellLine (text : String) : Action Unit :=
  .ofProgram (perform (.tell (text ++ "\n")))

/-- Whether there is a wish to stop. -/
def isCancelled : Action Bool :=
  .ofProgram (perform .isCancelled)

/-- A part of a name that nothing else has. -/
def randomName : Action String :=
  .ofProgram (perform .randomName)

/-- Sends a request. -/
def send (request : Request) : Action Response :=
  .attempt (perform (.send request))

end AssetFetch
