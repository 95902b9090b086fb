/-
**Checking a source from its text.**

A run reads the tokens if their dump is asked for, parses the scene and checks it. What it says on
the way is a list of events in order; its outcome is the scene with the findings, or the error that
ended the run.

* `checkSource` is the run. Each error and each finding is reported once (`Event.report`).
* `Reporter.checkFile` runs on a file that it adds to a reporter.
-/

import TurtleScene.Check.Finding
import TurtleScene.Report.Diagnostic
import TurtleScene.Scene.Outline
import TurtleScene.Scene.Parser
import TurtleScene.Token.Dump

namespace TurtleScene

/-- What a run shows, and the colours that it accepts. -/
structure Settings where
  dumpTokens : Bool
  dumpScene : Bool
  verbose : Bool
  palette : Palette
  deriving DecidableEq

/-- Settings that show nothing, with a palette. -/
def Settings.silent (palette : Palette) : Settings := ⟨false, false, false, palette⟩

/-- What a run says. -/
inductive Event
  /-- A text shown as it is. -/
  | text (text : String)
  /-- A problem that is reported in a file. -/
  | report (file : Nat) (problem : Problem)
  deriving DecidableEq

/-- The file and the problem of an event, if it reports one. -/
def Event.report? : Event → Option (Nat × Problem)
  | .text _ => none
  | .report file problem => some (file, problem)

/-- The scene of a source and what is wrong with it. -/
structure CheckedScene where
  scene : Scene
  findings : List Finding
  deriving DecidableEq

/-- Whether nothing was found. -/
def CheckedScene.isClean (checked : CheckedScene) : Bool := checked.findings.isEmpty

/-- What a run said and how it ended. -/
structure Run where
  events : List Event
  outcome : Except ParseError CheckedScene

namespace Run

/-- The problems that a run reported, with the files that they were reported in. -/
def reports (run : Run) : List (Nat × Problem) := run.events.filterMap Event.report?

/-- A run on a file that an error ends. -/
def refused (file : Nat) (error : ParseError) : Run :=
  ⟨[.report file error.toProblem], .error error⟩

/-- A run with more events in front. -/
def after (events : List Event) (run : Run) : Run := { run with events := events ++ run.events }

end Run

/-- A line that is shown only if the settings ask for it. -/
def Settings.note (settings : Settings) (text : String) : List Event :=
  if settings.verbose then [.text (text ++ "\n")] else []

/-- A dump between its two title lines, and an empty line. -/
def framed (title text : String) : Event :=
  .text ("=== " ++ title ++ " ===\n" ++ text ++ "=== End " ++ title ++ " ===\n\n")

/-- The dump of the tokens of a source. -/
def tokenDump (source : String) : Except LexicalError String :=
  (TokenStream.ofSource source).tokens.map dumpTokens

/-- Checks a scene that was read from a file. -/
def checkScene (settings : Settings) (file : Nat) (scene : Scene) : Run :=
  let findings := scene.check settings.palette none
  let shown := if settings.dumpScene then [framed "AST" scene.print] else []
  let count := settings.note ("Checking " ++ scene.draws.length.repr ++ " draw(s)...")
  let reports := findings.map fun finding => Event.report file finding.toProblem
  let total := settings.note ("Found " ++ findings.length.repr ++ " diagnostic(s)")
  ⟨shown ++ count ++ reports ++ total, .ok ⟨scene, findings⟩⟩

/-- Parses the source of a file and checks its scene. -/
def parseAndCheck (settings : Settings) (file : Nat) (source : SourceFile) : Run :=
  let run := match Scene.parse source.text with
    | .ok scene => checkScene settings file scene
    | .error error => .refused file error
  run.after (settings.note ("Parsing " ++ source.name ++ "..."))

/-- Checks the source of a file, which has a number among the files of a reporter. -/
def checkSource (settings : Settings) (file : Nat) (source : SourceFile) : Run :=
  if settings.dumpTokens then
    let run := match tokenDump source.text with
      | .ok dump => (parseAndCheck settings file source).after [framed "Tokens" dump]
      | .error error => .refused file (.lexical error)
    run.after (settings.note ("Lexing " ++ source.name ++ "..."))
  else parseAndCheck settings file source

/-- Adds a file, checks it, and counts what is reported. -/
def Reporter.checkFile (reporter : Reporter) (settings : Settings) (source : SourceFile) :
    Run × Reporter :=
  let run := checkSource settings reporter.nextFile source
  (run, (reporter.addFile source).report run.reports.length)

end TurtleScene
