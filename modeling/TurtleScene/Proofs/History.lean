/-
**What a session answers is told by its history.**

The steps so far settle what a session keeps: the files added, the problems reported, the colours
allowed and the rules known beforehand. Of the checks themselves nothing is left behind, neither a
finding in the log of the checker nor a name in scope. So each reply is that of a new checker, or of
a new run, at what the steps so far have made of the palette and of the rules.

* `Run.inFile`, `checkSource_eq_inFile` — a run on another file reports the same problems there.
* `Session.stateAfter` — what the steps so far have made of a session.
* `Session.expected` — the reply to a step, by the steps before it.
* `Session.handle_stateAfter` — what one step answers, and what it makes of a session.
* **`Session.handleAll_follows_history`** — the same for all steps in a row.
-/

import TurtleScene.Proofs.Verdict
import TurtleScene.Session

namespace TurtleScene

/-! ### Runs on other files -/

/-- The same event, in a file of another number. -/
def Event.inFile (file : Nat) : Event → Event
  | .text shown => .text shown
  | .report _ problem => .report file problem

/-- The same run, on a file of another number. -/
def Run.inFile (file : Nat) (run : Run) : Run :=
  { run with events := run.events.map (.inFile file) }

theorem Run.inFile_after (file : Nat) (events : List Event) (run : Run) :
    (run.after events).inFile file = (run.inFile file).after (events.map (.inFile file)) := by
  simp [after, inFile]

theorem Settings.map_inFile_note (settings : Settings) (file : Nat) (text : String) :
    (settings.note text).map (.inFile file) = settings.note text := by
  unfold note
  split <;> rfl

theorem checkScene_inFile (settings : Settings) (file number : Nat) (scene : Scene) :
    (checkScene settings number scene).inFile file = checkScene settings file scene := by
  have shown : ∀ text, (if settings.dumpScene then [framed "AST" text] else []).map
      (.inFile file) = if settings.dumpScene then [framed "AST" text] else [] := by
    intro text
    split <;> rfl
  have reports : ∀ findings : List Finding,
      (findings.map fun finding => Event.report number finding.toProblem).map (.inFile file) =
        findings.map fun finding => Event.report file finding.toProblem := by
    intro findings
    rw [List.map_map]
    rfl
  unfold checkScene Run.inFile
  simp only [List.map_append, shown, reports, settings.map_inFile_note]

theorem parseAndCheck_inFile (settings : Settings) (file number : Nat) (source : SourceFile) :
    (parseAndCheck settings number source).inFile file = parseAndCheck settings file source := by
  unfold parseAndCheck
  dsimp only
  rw [Run.inFile_after, settings.map_inFile_note]
  cases Scene.parse source.text with
  | ok scene => exact congrArg _ (checkScene_inFile settings file number scene)
  | error error => rfl

/-- **A run does the same on each file**, and reports it there. -/
theorem checkSource_eq_inFile (settings : Settings) (file number : Nat) (source : SourceFile) :
    checkSource settings file source = (checkSource settings number source).inFile file := by
  unfold checkSource
  split
  · dsimp only
    rw [Run.inFile_after, settings.map_inFile_note]
    cases tokenDump source.text with
    | ok dump =>
      dsimp only
      rw [Run.inFile_after, parseAndCheck_inFile]
      rfl
    | error error => rfl
  · exact (parseAndCheck_inFile settings file number source).symm

namespace Session

/-! ### What the steps so far have made -/

namespace Step

/-- The file that a step adds. -/
def file? : Step → Option SourceFile
  | .addFile source | .checkFile source => some source
  | .report .. | .allow _ | .defineRule .. | .check _ | .checkWithPrelude _ => none

/-- The colour that a step allows. -/
def color? : Step → Option String
  | .allow color => some color
  | .addFile _ | .report .. | .checkFile _ | .defineRule .. | .check _ | .checkWithPrelude _ => none

/-- The rule that a step makes known, by its name and parameter. -/
def rule? : Step → Option (String × String)
  | .defineRule name parameter => some (name, parameter)
  | .addFile _ | .report .. | .checkFile _ | .allow _ | .check _ | .checkWithPrelude _ => none

end Step

/-- A run on a file that is the first one of a new reporter. -/
def newRun (settings : Settings) (source : SourceFile) : Run :=
  (Reporter.empty.checkFile settings source).1

/-- The number of problems that an end of a run stands for: the error, or what was found. -/
def problemCount : Except ParseError CheckedScene → Nat
  | .error _ => 1
  | .ok checked => checked.findings.length

/-- The number of problems that a step reports: the one that it is asked for, or those of its
run. -/
def Step.problems (settings : Settings) : Step → Nat
  | .report .. => 1
  | .checkFile source => problemCount (newRun settings source).outcome
  | .addFile _ | .allow _ | .defineRule .. | .check _ | .checkWithPrelude _ => 0

/-- The settings behind steps: those of the start, with the colours allowed since. -/
def settingsAfter (settings : Settings) (steps : List Step) : Settings :=
  { settings with palette := settings.palette.allowAll (steps.filterMap Step.color?) }

/-- The number of problems reported in steps in a row, each by the settings behind those before
it. -/
def reportedAfter (settings : Settings) (steps : List Step) : Nat :=
  steps.zipIdx.foldl
    (fun count entry => count + entry.1.problems (settingsAfter settings (steps.take entry.2))) 0

/-- The scope of the rules made known in steps in a row. -/
def preludeAfter (steps : List Step) : Scope :=
  (steps.filterMap Step.rule?).foldl (fun scope rule => scope.defineRule rule.1 rule.2) .root

/-- **What steps in a row make of a session.** The checker is as it was at the start. -/
def stateAfter (settings : Settings) (steps : List Step) : Session where
  reporter := ⟨steps.filterMap Step.file?, reportedAfter settings steps⟩
  settings := settingsAfter settings steps
  checker := .new settings.palette
  prelude := preludeAfter steps

/-- **The reply to a step**, by the steps before it. -/
def expected (settings : Settings) (earlier : List Step) (step : Step) : Reply :=
  let file := (earlier.filterMap Step.file?).length
  let reported := reportedAfter settings (earlier ++ [step])
  let checker := Checker.new settings.palette
  match step with
  | .addFile _ => .fileAdded file
  | .report number problem => .problemReported (problem.toDiagnostic number) reported
  | .checkFile source =>
    .fileChecked ((newRun (settingsAfter settings earlier) source).inFile file) reported
  | .allow color =>
    .colorAllowed ((settingsAfter settings earlier).palette.allow color) settings.palette
  | .defineRule .. => .ruleDefined
  | .check text =>
    .textChecked ((Scene.parse text).map fun scene => (checker.check none scene).1)
  | .checkWithPrelude text =>
    .textChecked ((Scene.parse text).map fun scene =>
      (checker.check (some (preludeAfter earlier)) scene).1)

/-! ### One more step -/

theorem reportedAfter_append (settings : Settings) (steps : List Step) (step : Step) :
    reportedAfter settings (steps ++ [step]) =
      reportedAfter settings steps + step.problems (settingsAfter settings steps) := by
  have front : ∀ entry ∈ steps.zipIdx, (steps ++ [step]).take entry.2 = steps.take entry.2 := by
    intro entry member
    exact List.take_append_of_le_length (Nat.le_of_lt (List.mem_zipIdx' member).1)
  unfold reportedAfter
  rw [List.zipIdx_append, List.foldl_append,
    List.foldl_ext _ _ 0 fun count entry member => by rw [front entry member]]
  simp

/-- What one more step makes of a session: it may add a file, report problems, allow a colour, or
define a rule. -/
theorem stateAfter_append (settings : Settings) (earlier : List Step) (step : Step) :
    let before := stateAfter settings earlier
    let palette := before.settings.palette
    stateAfter settings (earlier ++ [step]) =
      { reporter := (step.file?.elim before.reporter before.reporter.addFile).report
          (step.problems before.settings)
        settings := { before.settings with palette := step.color?.elim palette palette.allow }
        checker := .new settings.palette
        prelude := step.rule?.elim before.prelude fun rule =>
          before.prelude.defineRule rule.1 rule.2 } := by
  cases step <;>
    simp [stateAfter, settingsAfter, preludeAfter, reportedAfter_append, List.filterMap_cons,
      Step.file?, Step.color?, Step.rule?, Palette.allowAll, Reporter.report, Reporter.addFile]

/-- A run on a further file is a new run, reported there, and the reporter counts its problems. -/
theorem checkFile_eq (settings : Settings) (reporter : Reporter) (source : SourceFile) :
    reporter.checkFile settings source =
      ((newRun settings source).inFile reporter.nextFile,
        (reporter.addFile source).report (Step.problems settings (.checkFile source))) := by
  have run : (reporter.checkFile settings source).1 =
      (newRun settings source).inFile reporter.nextFile :=
    checkSource_eq_inFile settings reporter.nextFile Reporter.empty.nextFile source
  have count : (checkSource settings reporter.nextFile source).reports.length =
      Step.problems settings (.checkFile source) := by
    rw [checkSource_reports, List.length_map]
    show (problemsOf (reporter.checkFile settings source).1.outcome).length = problemCount _
    rw [run]
    show (problemsOf (newRun settings source).outcome).length = _
    cases (newRun settings source).outcome with
    | error error => rfl
    | ok checked => exact List.length_map _
  rw [← run, ← count]
  rfl

/-- The checker finds in a text what a new one finds, and is itself as good as new behind it. -/
theorem checkText_eq (settings : Settings) (steps : List Step) (surroundings : Option Scope)
    (text : String) :
    (stateAfter settings steps).checkText surroundings text =
      (.textChecked ((Scene.parse text).map fun scene =>
          ((Checker.new settings.palette).check surroundings scene).1),
        stateAfter settings steps) := by
  unfold checkText
  cases Scene.parse text with
  | error error => rfl
  | ok scene =>
    have same : (stateAfter settings steps).checker = .new settings.palette := rfl
    dsimp only [Except.map]
    rw [same, Checker.check_eq]
    rfl

/-- **One more step**: its reply is the expected one, and the session behind it is what the steps
with this one make of it. -/
theorem handle_stateAfter (settings : Settings) (earlier : List Step) (step : Step) :
    (stateAfter settings earlier).handle step =
      (expected settings earlier step, stateAfter settings (earlier ++ [step])) := by
  rw [stateAfter_append]
  cases step with
  | addFile _ | allow _ | defineRule _ _ => rfl
  | report file problem =>
    rw [expected, reportedAfter_append]
    rfl
  | checkFile source =>
    rw [expected, reportedAfter_append, handle, checkFile_eq]
    rfl
  | check text | checkWithPrelude text => exact checkText_eq settings earlier _ text

/-! ### All steps -/

/-- The session behind steps in a row. -/
def afterAll (session : Session) (steps : List Step) : Session :=
  steps.foldl (fun session step => (session.handle step).2) session

theorem handleAll_append (session : Session) (steps others : List Step) :
    session.handleAll (steps ++ others) =
      session.handleAll steps ++ (session.afterAll steps).handleAll others := by
  induction steps generalizing session with
  | nil => rfl
  | cons step more ih => exact congrArg (_ :: ·) (ih (session.handle step).2)

theorem length_handleAll (session : Session) (steps : List Step) :
    (session.handleAll steps).length = steps.length := by
  induction steps generalizing session with
  | nil => rfl
  | cons step more ih => exact congrArg (· + 1) (ih (session.handle step).2)

/-- Behind steps in a row, a session is what they make of it. -/
theorem afterAll_startWith (settings : Settings) (steps : List Step) :
    (startWith settings).afterAll steps = stateAfter settings steps := by
  induction steps using List.reverseRecOn with
  | nil => rfl
  | append_singleton earlier step ih =>
    have further : (startWith settings).afterAll (earlier ++ [step]) =
        (((startWith settings).afterAll earlier).handle step).2 := List.foldl_append
    rw [further, ih, handle_stateAfter]

/-- **What a session answers is told by its history.** Steps of all kinds follow each other in any
order. Each of them is answered as a new checker or a new run would answer it, with the palette and
the rules that the steps before it have made; files are numbered and problems counted over all of
them. What is kept for the next step is what these steps have made, and nothing else. -/
theorem handleAll_follows_history (settings : Settings) (earlier later : List Step) (step : Step) :
    ((startWith settings).handleAll (earlier ++ step :: later))[earlier.length]? =
        some (expected settings earlier step) ∧
      (startWith settings).afterAll earlier = stateAfter settings earlier := by
  refine ⟨?_, afterAll_startWith settings earlier⟩
  have behind : earlier.length = ((startWith settings).handleAll earlier).length + 0 :=
    (length_handleAll _ earlier).symm
  rw [handleAll_append, afterAll_startWith, behind,
    List.getElem?_append_right (Nat.le_add_right _ _), Nat.add_sub_cancel_left, handleAll,
    handle_stateAfter]
  rfl

end Session

end TurtleScene
