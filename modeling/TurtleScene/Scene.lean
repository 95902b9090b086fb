/-
**Scenes.**

A scene is a list of shapes placed on the plane. A shape is drawn by a turtle, which follows a start
sequence of instructions, the initiator of the shape; some of them call a rule of the shape. Every
part remembers the span of the source that it was read from.
-/

import TurtleScene.Number.Binary64
import TurtleScene.Span

namespace TurtleScene

/-- A value as it is written in a source. -/
inductive Literal
  | integer (value : Int64)
  | real (value : Binary64)
  | text (value : String)
  | name (value : String)
  deriving DecidableEq

/-- What an operand is, apart from its place. -/
inductive OperandForm
  | literal (value : Literal)
  /-- Left out. -/
  | missing
  /-- Taken from the surroundings of the shape. -/
  | context
  deriving DecidableEq

/-- An operand of an instruction, or a coordinate. -/
structure Operand where
  form : OperandForm
  span : Span
  deriving DecidableEq

/-- What an instruction does, apart from its place. -/
inductive InstructionForm
  /-- Does what a rule says. -/
  | call (rule : String) (argument : Operand)
  | left (angle : Operand)
  | right (angle : Operand)
  | line (length : Operand)
  | push
  | pop
  | jump (x y : Operand)
  | assign (name : String) (value : Operand)
  deriving DecidableEq

/-- One step of the turtle. -/
structure Instruction where
  form : InstructionForm
  span : Span
  deriving DecidableEq

/-- A rule: a name for instructions, with one parameter. -/
structure Rule where
  name : String
  parameter : String
  instructions : List Instruction
  span : Span
  deriving DecidableEq

/-- The start sequence of a shape. -/
structure Initiator where
  instructions : List Instruction
  span : Span
  deriving DecidableEq

/-- A shape, its pencil the text that names its colour. -/
structure Shape where
  name : String
  pencil : String
  pencilSpan : Span
  rules : List Rule
  initiator : Initiator
  span : Span
  deriving DecidableEq

/-- A shape placed on the plane. -/
structure Draw where
  shape : Shape
  x : Operand
  y : Operand
  span : Span
  deriving DecidableEq

/-- The shapes drawn, in the order of the source. -/
structure Scene where
  draws : List Draw
  deriving DecidableEq

end TurtleScene
