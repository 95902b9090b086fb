/-
**Moving the places of a scene.**

`mapSpans` changes every span of a part of a scene and nothing else.

* `Scene.shift` moves a scene along a text.
* `Scene.eraseSpans` forgets where a scene was read from.
-/

import TurtleScene.Scene

namespace TurtleScene

/-- Changes the span of an operand. -/
def Operand.mapSpans (change : Span → Span) (operand : Operand) : Operand :=
  { operand with span := change operand.span }

/-- Changes the spans in an instruction but its own. -/
def InstructionForm.mapSpans (change : Span → Span) : InstructionForm → InstructionForm
  | .call rule argument => .call rule (argument.mapSpans change)
  | .left angle => .left (angle.mapSpans change)
  | .right angle => .right (angle.mapSpans change)
  | .line length => .line (length.mapSpans change)
  | .push => .push
  | .pop => .pop
  | .jump x y => .jump (x.mapSpans change) (y.mapSpans change)
  | .assign name value => .assign name (value.mapSpans change)

/-- Changes the spans of an instruction. -/
def Instruction.mapSpans (change : Span → Span) (instruction : Instruction) : Instruction :=
  ⟨instruction.form.mapSpans change, change instruction.span⟩

/-- Changes the spans of a rule. -/
def Rule.mapSpans (change : Span → Span) (rule : Rule) : Rule :=
  { rule with
    instructions := rule.instructions.map (Instruction.mapSpans change)
    span := change rule.span }

/-- Changes the spans of a start sequence. -/
def Initiator.mapSpans (change : Span → Span) (initiator : Initiator) : Initiator :=
  ⟨initiator.instructions.map (Instruction.mapSpans change), change initiator.span⟩

/-- Changes the spans of a shape. -/
def Shape.mapSpans (change : Span → Span) (shape : Shape) : Shape :=
  { shape with
    pencilSpan := change shape.pencilSpan
    rules := shape.rules.map (Rule.mapSpans change)
    initiator := shape.initiator.mapSpans change
    span := change shape.span }

/-- Changes the spans of a drawn shape. -/
def Draw.mapSpans (change : Span → Span) (draw : Draw) : Draw :=
  ⟨draw.shape.mapSpans change, draw.x.mapSpans change, draw.y.mapSpans change, change draw.span⟩

namespace Scene

/-- Changes the spans of a scene. -/
def mapSpans (change : Span → Span) (scene : Scene) : Scene :=
  ⟨scene.draws.map (Draw.mapSpans change)⟩

/-- The scene further along the text by a number of bytes. -/
def shift (distance : Nat) (scene : Scene) : Scene := scene.mapSpans (Span.shift distance)

/-- The scene without its places. -/
def eraseSpans (scene : Scene) : Scene := scene.mapSpans fun _ => Span.point 0

end Scene

end TurtleScene
