/-
**The outline of a scene.**

An outline shows one part of a scene on each line, indented by its depth in the tree. It leaves out
all spans.

* `Scene.outline` lists the lines, and `Scene.print` is their text.
-/

import TurtleScene.Number.Shortest
import TurtleScene.Scene

namespace TurtleScene

/-- A line of an outline. -/
structure OutlineLine where
  depth : Nat
  text : String
  deriving DecidableEq

/-- The text of a line, with its indentation and its end. -/
def OutlineLine.print (line : OutlineLine) : String :=
  String.join (List.replicate line.depth "|  ") ++ line.text ++ "\n"

/-- The text of a literal. Texts stand between quotes, and nothing in them is escaped. -/
def Literal.print : Literal → String
  | .integer value => String.ofList (Integer.write value)
  | .real value => String.ofList value.write
  | .text value => "\"" ++ value ++ "\""
  | .name value => value

/-- An operand in a slot without a title. -/
def Operand.print (operand : Operand) : String :=
  match operand.form with
  | .literal value => "value: " ++ value.print
  | .missing => "nill"
  | .context => "ContextNode"

/-- An operand in a slot with a title. -/
def Operand.printTitled (title : String) (operand : Operand) : String :=
  title ++ ": " ++
    match operand.form with
    | .literal value => value.print
    | .missing => "nill"
    | .context => "ContextNode"

/-- A line with an operand on a line of its own below it. -/
def outlineOperand (depth : Nat) (text : String) (operand : Operand) : List OutlineLine :=
  [⟨depth, text⟩, ⟨depth + 1, operand.print⟩]

/-- The lines of a pair of coordinates. -/
def outlinePair (depth : Nat) (x y : Operand) : List OutlineLine :=
  [⟨depth, x.printTitled "X"⟩, ⟨depth, y.printTitled "Y"⟩]

/-- The lines of an instruction. -/
def Instruction.outline (depth : Nat) (instruction : Instruction) : List OutlineLine :=
  match instruction.form with
  | .call rule argument => outlineOperand depth ("CallRule: " ++ rule) argument
  | .left angle => outlineOperand depth "Left:" angle
  | .right angle => outlineOperand depth "Right:" angle
  | .line length => outlineOperand depth "Line:" length
  | .push => [⟨depth, "Push"⟩]
  | .pop => [⟨depth, "Pop"⟩]
  | .jump x y => ⟨depth, "Jump:"⟩ :: outlinePair (depth + 1) x y
  | .assign name value => outlineOperand depth ("Assign: " ++ name) value

/-- The lines of a rule. -/
def Rule.outline (depth : Nat) (rule : Rule) : List OutlineLine :=
  [⟨depth, "Rule:"⟩, ⟨depth + 1, "name: " ++ rule.name⟩,
    ⟨depth + 1, "param: " ++ rule.parameter⟩] ++
    rule.instructions.flatMap (Instruction.outline (depth + 1))

/-- The lines of a start sequence. -/
def Initiator.outline (depth : Nat) (initiator : Initiator) : List OutlineLine :=
  ⟨depth, "Axiom:"⟩ :: initiator.instructions.flatMap (Instruction.outline (depth + 1))

/-- The lines of a shape. -/
def Shape.outline (depth : Nat) (shape : Shape) : List OutlineLine :=
  [⟨depth, "Shape:"⟩, ⟨depth + 1, "name: " ++ shape.name⟩,
    ⟨depth + 1, "pencil: " ++ shape.pencil⟩] ++
    shape.rules.flatMap (Rule.outline (depth + 1)) ++ shape.initiator.outline (depth + 1)

/-- The lines of a shape with its place on the plane. -/
def Draw.outline (depth : Nat) (draw : Draw) : List OutlineLine :=
  ⟨depth, "Draw:"⟩ :: draw.shape.outline (depth + 1) ++ outlinePair (depth + 1) draw.x draw.y

/-- The lines of a scene. -/
def Scene.outline (scene : Scene) : List OutlineLine :=
  ⟨0, "Scene:"⟩ :: scene.draws.flatMap (Draw.outline 1)

/-- The text of a scene's outline. -/
def Scene.print (scene : Scene) : String := String.join (scene.outline.map OutlineLine.print)

end TurtleScene
