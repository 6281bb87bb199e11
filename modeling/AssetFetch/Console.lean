/-
**Asking the user.**

After a failure the user chooses from three numbered options, and may be asked for a token. Answers
are lines; the end of input closes the question.

* `Choice`: the options;
* `choiceOf`: what a line chooses;
* `Exchange`: what a question comes to: the answer, what was written, and the lines left;
* `Console.askHowToGoOn`, `Console.askForToken`: the questions.
-/

import AssetFetch.Failure

namespace AssetFetch

open AssetFetch.Text

/-- The options after a failure. -/
inductive Choice where
  | renewToken
  | retry
  | dismiss
  deriving DecidableEq, Repr, Inhabited

namespace Choice

/-- The options in their order. -/
def all : List Choice := [renewToken, retry, dismiss]

/-- What an option is called. -/
def title : Choice → String
  | renewToken => "Update Github Auth Token"
  | retry => "Retry download"
  | dismiss => "Dismiss"

end Choice

/-- A line of input: its text, a failure to read it, or the end of input. -/
inductive Line where
  | text (characters : String)
  | failure (failure : Failure)
  | finish
  deriving Inhabited

/-- Whether a failure says that input has ended. -/
def Failure.isEndOfInput : Failure → Bool
  | .endOfInput _ => true
  | _ => false

/-- What a question comes to: the answer, the text written, the prompts given to the reader, and
the lines left. -/
structure Exchange (α : Type) where
  answer : Except Failure α
  text : String
  prompts : List String
  rest : List Line
  deriving Inhabited

namespace Console

/-- The lines that show the options. -/
def menu : String :=
  String.join ((Choice.all.zipIdx 1).map fun option =>
    "  [" ++ natText option.2 ++ "] " ++ option.1.title ++ "\n")

/-- The request for a choice. -/
def choicePrompt : String := "Select an option: "

/-- The answer to a line that chooses nothing. -/
def choiceReminder : String :=
  "Please enter a number from 1 to " ++ natText Choice.all.length ++ "\n"

/-- What a line chooses: the option of its number, if it is one. -/
def choiceOf (line : String) : Except Failure (Option Choice) :=
  let text := trim line
  if text.isEmpty || !text.toList.all isDigit then .ok none
  else
    match decimalNumber text with
    | .error fault => .error (.numeral fault)
    | .ok 0 => .ok none
    | .ok (number + 1) => .ok Choice.all[number]?

/-- An exchange with text written and a prompt given before it. -/
def after {α : Type} (text prompt : String) (exchange : Exchange α) : Exchange α :=
  { exchange with text := text ++ exchange.text, prompts := prompt :: exchange.prompts }

/-- Asks until a line chooses an option or input ends. -/
def readChoice : List Line → Exchange (Option Choice)
  | [] => ⟨.ok none, choicePrompt, [""], []⟩
  | .finish :: rest => ⟨.ok none, choicePrompt, [""], rest⟩
  | .failure failure :: rest =>
    ⟨if failure.isEndOfInput then .ok none else .error failure, choicePrompt, [""], rest⟩
  | .text line :: rest =>
    match choiceOf line with
    | .error failure => ⟨.error failure, choicePrompt, [""], rest⟩
    | .ok (some choice) => ⟨.ok (some choice), choicePrompt, [""], rest⟩
    | .ok none => after (choicePrompt ++ choiceReminder) "" (readChoice rest)

/-- Shows a message and asks for a choice. -/
def askHowToGoOn (message : String) (lines : List Line) : Exchange (Option Choice) :=
  let exchange := readChoice lines
  { exchange with text := message ++ "\n" ++ menu ++ exchange.text }

/-- The prompt for a token. -/
def tokenQuestion : String := "Github token (empty to clear): "

/-- Shows an explanation and asks for a token; the end of input gives none up. -/
def askForToken (current : Option String) (explanation : String) (lines : List Line) :
    Exchange (Option String) :=
  let hint := if (current.getD "").isEmpty then "" else "A token is currently stored.\n"
  let text := explanation ++ "\n" ++ hint
  match lines with
  | [] => ⟨.ok none, text, [tokenQuestion], []⟩
  | .finish :: rest => ⟨.ok none, text, [tokenQuestion], rest⟩
  | .failure failure :: rest =>
    ⟨if failure.isEndOfInput then .ok none else .error failure, text, [tokenQuestion], rest⟩
  | .text line :: rest => ⟨.ok (some (trim line)), text, [tokenQuestion], rest⟩

end Console

end AssetFetch
