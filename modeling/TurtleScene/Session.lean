/-
**Checking sources one after another.**

A session keeps what lasts from one source to the next: the reporter, the settings, a checker with a
palette and a log of its own, and a scope of rules known beforehand.

* `Session.handle` answers one step and gives the session behind it; `Session.handleAll` answers
  steps in a row.
* Colours allowed later reach the settings only; the checker keeps the palette it began with.
-/

import TurtleScene.Check.Checker
import TurtleScene.Run

namespace TurtleScene

/-- What lasts from one source to the next. -/
structure Session where
  reporter : Reporter
  settings : Settings
  checker : Checker
  /-- The rules known beforehand. -/
  prelude : Scope

namespace Session

/-- A session at its start, its checker with a copy of the palette of the settings. -/
def startWith (settings : Settings) : Session := ⟨.empty, settings, .new settings.palette, .root⟩

/-- A session at its start, with settings that show nothing. -/
def start (palette : Palette) : Session := startWith (.silent palette)

/-- What a session can be asked to do. -/
inductive Step
  /-- Adds a file without checking it. -/
  | addFile (source : SourceFile)
  /-- Reports a problem in a file. -/
  | report (file : Nat) (problem : Problem)
  /-- Adds a file and checks it by the settings. -/
  | checkFile (source : SourceFile)
  /-- Accepts one more named colour in the files checked from now on. -/
  | allow (color : String)
  /-- Makes a rule known beforehand. -/
  | defineRule (name parameter : String)
  /-- Checks a text by the checker alone. -/
  | check (text : String)
  /-- Checks a text with the rules known beforehand. -/
  | checkWithPrelude (text : String)

/-- What a session answers. -/
inductive Reply
  /-- The number of the file. -/
  | fileAdded (file : Nat)
  /-- The problem as it is displayed, and the number of problems reported so far. -/
  | problemReported (diagnostic : Diagnostic) (reported : Nat)
  /-- The run, and the number of problems reported so far. -/
  | fileChecked (run : Run) (reported : Nat)
  /-- The palettes of the settings and of the checker. -/
  | colorAllowed (settings checker : Palette)
  | ruleDefined
  /-- What the checker found, or why the text is no scene. -/
  | textChecked (findings : Except ParseError (List Finding))

/-- What the checker finds in a text, inside `surroundings` if there are any, and the session behind
it. A text that is no scene does not reach the checker. -/
def checkText (session : Session) (surroundings : Option Scope) (text : String) :
    Reply × Session :=
  match Scene.parse text with
  | .ok scene =>
    let (findings, checker) := session.checker.check surroundings scene
    (.textChecked (.ok findings), { session with checker })
  | .error error => (.textChecked (.error error), session)

/-- The answer to a step, and the session behind it. -/
def handle (session : Session) : Step → Reply × Session
  | .addFile source =>
    (.fileAdded session.reporter.nextFile,
      { session with reporter := session.reporter.addFile source })
  | .report file problem =>
    let reporter := session.reporter.report 1
    (.problemReported (problem.toDiagnostic file) reporter.reported, { session with reporter })
  | .checkFile source =>
    let (run, reporter) := session.reporter.checkFile session.settings source
    (.fileChecked run reporter.reported, { session with reporter })
  | .allow color =>
    let palette := session.settings.palette.allow color
    (.colorAllowed palette session.checker.palette, { session with settings.palette := palette })
  | .defineRule name parameter =>
    (.ruleDefined, { session with prelude := session.prelude.defineRule name parameter })
  | .check text => session.checkText none text
  | .checkWithPrelude text => session.checkText (some session.prelude) text

/-- The answers to steps in a row. -/
def handleAll (session : Session) : List Step → List Reply
  | [] => []
  | step :: others =>
    let (reply, after) := session.handle step
    reply :: after.handleAll others

end Session

end TurtleScene
