/-
**Checking a scene.**

The checker walks a scene in order and lists what is wrong with it: pencils whose colour the palette
does not accept, and calls of rules that are not in scope. A rule is in scope in its own body, in
all that follows it in the shape, and in the shapes drawn later.

* `Scene.check` is the walk. It goes on behind every finding.
-/

import TurtleScene.Check.Palette
import TurtleScene.Check.Scope
import TurtleScene.Problem

namespace TurtleScene

/-- What the checker finds wrong, with its place. -/
inductive Finding
  | invalidColor (color : String) (span : Span)
  | undefinedRule (name : String) (span : Span)
  deriving DecidableEq

namespace Finding

/-- The wording of a finding. -/
def message : Finding → String
  | .invalidColor color _ => "Invalid color '" ++ color ++ "'"
  | .undefinedRule name _ => "Don't exist's rule '" ++ name ++ "'"

/-- The place of a finding: the colour, or the whole call. -/
def span : Finding → Span
  | .invalidColor _ span | .undefinedRule _ span => span

/-- A finding in the common form of problems. -/
def toProblem (finding : Finding) : Problem := .found .checking finding.message finding.span

end Finding

/-- Checks parts one after another, each in the scope that the ones before it leave behind. -/
def checkEach {α : Type} (check : Scope → α → List Finding × Scope) (scope : Scope) :
    List α → List Finding × Scope
  | [] => ([], scope)
  | first :: others =>
    let (findings, after) := check scope first
    let (further, last) := checkEach check after others
    (findings ++ further, last)

/-- A called rule has to be in scope. An assignment defines its variable behind itself. -/
def Instruction.check (scope : Scope) (instruction : Instruction) : List Finding × Scope :=
  match instruction.form with
  | .call rule _ =>
    (if scope.hasRule rule then [] else [.undefinedRule rule instruction.span], scope)
  | .assign name value => ([], scope.defineVariable name value)
  | .left _ | .right _ | .line _ | .push | .pop | .jump _ _ => ([], scope)

/-- A rule is in scope in its own body. -/
def Rule.check (scope : Scope) (rule : Rule) : List Finding × Scope :=
  checkEach Instruction.check (scope.defineRule rule.name rule.parameter) rule.instructions

/-- The colour of a pencil has to be accepted. -/
def Shape.checkPencil (palette : Palette) (shape : Shape) : List Finding :=
  if palette.accepts shape.pencil then [] else [.invalidColor shape.pencil shape.pencilSpan]

/-- The rules of a shape are checked in order, and its start sequence behind them. -/
def Shape.check (palette : Palette) (scope : Scope) (shape : Shape) : List Finding × Scope :=
  let (inRules, afterRules) := checkEach Rule.check scope shape.rules
  let (inInitiator, last) := checkEach Instruction.check afterRules shape.initiator.instructions
  (shape.checkPencil palette ++ inRules ++ inInitiator, last)

/-- A draw is checked by its shape. -/
def Draw.check (palette : Palette) (scope : Scope) (draw : Draw) : List Finding × Scope :=
  draw.shape.check palette scope

/-- What is wrong with a scene. All draws share one scope, inside `surroundings` if there are
any. -/
def Scene.check (palette : Palette) (surroundings : Option Scope) (scene : Scene) : List Finding :=
  let scope := (surroundings.map Scope.enter).getD Scope.root
  (checkEach (Draw.check palette) scope scene.draws).1

end TurtleScene
