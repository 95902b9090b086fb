/-
**The answer of the program.**

* `Command.request` reads a command line: either the answer is known at once, or a file has to be
  checked.
* `Options.answer` checks the text of the file. All it says goes to the error output; the exit code
  is 0 if the file is readable, a scene, and without findings, and else 1.
-/

import TurtleScene.Command.Folder
import TurtleScene.Command.Options
import TurtleScene.Report.Snippet
import TurtleScene.Run

namespace TurtleScene.Command

/-- What the program writes and the code it ends with. -/
structure Answer where
  exitCode : Nat
  output : String
  errorOutput : String
  deriving DecidableEq

/-- What a command line leads to. -/
inductive Request
  | done (answer : Answer)
  | check (options : Options)
  deriving DecidableEq

/-- What has to be done for a command line. -/
def request (arguments : List String) : Request :=
  match readArguments arguments with
  | .ok options => .check options
  | .error (.inform information) => .done ⟨0, information.render, ""⟩
  | .error (.misuse error) => .done ⟨2, "", error.render⟩

/-- Whether the name of a file ends in `.shape`, behind at least one character. -/
def hasShapeExtension (path : String) : Bool :=
  let name := (pathParts path).getLast?.getD ""
  let (reversedExtension, before) := name.toList.reverse.span (· ≠ '.')
  reversedExtension.reverse = "shape".toList && 1 < before.length

/-- The text of an event on the error output. -/
def eventText (reporter : Reporter) : Event → String
  | .text text => text
  | .report file problem =>
    String.join ((reporter.render (problem.toDiagnostic file)).map (· ++ "\n"))

namespace Options

/-- The settings of a check. -/
def settings (options : Options) : Settings where
  dumpTokens := options.choices.contains .dumpTokens
  dumpScene := options.choices.contains .dumpScene
  verbose := options.choices.contains .verbose
  palette := Palette.standard.allowAll options.colors

/-- The text of the events of a check that is only shown if asked for. -/
def note (options : Options) (text : String) : String :=
  String.join ((options.settings.note text).map (eventText .empty))

/-- The answer for a file that cannot be read. -/
def refusal (options : Options) (error : ReadError) : Answer :=
  ⟨1, "", options.note ("Checking " ++ options.input) ++
    "error: failed to read " ++ options.input ++ ": " ++ error.message ++ "\n"⟩

/-- The answer for a file with a text. -/
def verdict (options : Options) (text : String) : Answer :=
  let settings := options.settings
  let (run, reporter) := Reporter.empty.checkFile settings ⟨options.input, text⟩
  let clean := match run.outcome with
    | .ok checked => checked.isClean
    | .error _ => false
  let opening := options.note ("Checking " ++ options.input) ++
    if hasShapeExtension options.input then ""
    else options.note ("warning: " ++ options.input ++ " does not have a .shape extension")
  let said := String.join (run.events.map (eventText reporter))
  let closing := if clean then options.note (options.input ++ ": no semantic errors") else ""
  ⟨if clean then 0 else 1, "", opening ++ said ++ closing⟩

/-- The answer for a file, whose text was read or not. -/
def answer (options : Options) : Except ReadError String → Answer
  | .ok text => options.verdict text
  | .error error => options.refusal error

end Options

/-- The answer to a command line in a folder. -/
def run (folder : Folder) (arguments : List String) : Answer :=
  match request arguments with
  | .done answer => answer
  | .check options => options.answer (folder.read options.input)

end TurtleScene.Command
