/-
**Agreement of scenes.**

Two scenes agree if they have the same parts at the same places, where two floating-point literals
are compared as the numbers they denote. So a scene that holds a literal that is no number does not
agree with itself, and the two zeros agree.

* `Scene.agrees` is the comparison; all other parts are compared by equality.
-/

import TurtleScene.Scene

namespace TurtleScene

/-- Literals of the same kind and value. -/
def Literal.agrees : Literal → Literal → Bool
  | .real first, .real second => first.ieeeEq second
  | first, second => first = second

/-- Forms of the same kind, literals among them in agreement. -/
def OperandForm.agrees : OperandForm → OperandForm → Bool
  | .literal first, .literal second => first.agrees second
  | first, second => first = second

/-- Operands in agreement at the same place. -/
def Operand.agrees (first second : Operand) : Bool :=
  first.form.agrees second.form && first.span = second.span

/-- Instructions of the same kind with operands in agreement. -/
def InstructionForm.agrees : InstructionForm → InstructionForm → Bool
  | .call rule argument, .call otherRule other => rule == otherRule && argument.agrees other
  | .left angle, .left other => angle.agrees other
  | .right angle, .right other => angle.agrees other
  | .line length, .line other => length.agrees other
  | .push, .push => true
  | .pop, .pop => true
  | .jump x y, .jump otherX otherY => x.agrees otherX && y.agrees otherY
  | .assign name value, .assign otherName other => name == otherName && value.agrees other
  | _, _ => false

/-- Instructions in agreement at the same place. -/
def Instruction.agrees (first second : Instruction) : Bool :=
  first.form.agrees second.form && first.span = second.span

/-- Rules in agreement at the same place. -/
def Rule.agrees (first second : Rule) : Bool :=
  first.name == second.name && first.parameter == second.parameter &&
    first.instructions.isEqv second.instructions Instruction.agrees && first.span = second.span

/-- Start sequences in agreement at the same place. -/
def Initiator.agrees (first second : Initiator) : Bool :=
  first.instructions.isEqv second.instructions Instruction.agrees && first.span = second.span

/-- Shapes in agreement at the same place. -/
def Shape.agrees (first second : Shape) : Bool :=
  first.name == second.name && first.pencil == second.pencil &&
    first.pencilSpan = second.pencilSpan && first.rules.isEqv second.rules Rule.agrees &&
    first.initiator.agrees second.initiator && first.span = second.span

/-- Drawn shapes in agreement, drawn at coordinates in agreement. -/
def Draw.agrees (first second : Draw) : Bool :=
  first.shape.agrees second.shape && first.x.agrees second.x && first.y.agrees second.y &&
    first.span = second.span

/-- Scenes with the same number of draws, in agreement one by one. -/
def Scene.agrees (first second : Scene) : Bool := first.draws.isEqv second.draws Draw.agrees

end TurtleScene
