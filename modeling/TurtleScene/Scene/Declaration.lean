/-
**The declarations of a source and the scene that they make.**

A source defines shapes and draws them, in any order; a shape may be drawn before it is defined.

* `Scene.ofDeclarations` gives every draw statement the shape it names, and refuses the first draw
  statement whose shape is defined nowhere.
-/

import TurtleScene.Scene
import TurtleScene.Scene.ParseError

namespace TurtleScene

/-- A draw statement, its shape still a name. -/
structure DrawStatement where
  shapeName : String
  nameSpan : Span
  x : Operand
  y : Operand
  span : Span
  deriving DecidableEq

/-- What a source consists of. -/
inductive Declaration
  | shape (definition : Shape)
  | draw (statement : DrawStatement)
  deriving DecidableEq

namespace Declaration

/-- The shape defined, if one is. -/
def shape? : Declaration → Option Shape
  | .shape definition => some definition
  | .draw _ => none

/-- The draw statement, if it is one. -/
def draw? : Declaration → Option DrawStatement
  | .shape _ => none
  | .draw statement => some statement

/-- Whether a shape of a name is among the declarations. -/
def defines (declarations : List Declaration) (name : String) : Bool :=
  (declarations.filterMap shape?).any fun shape => shape.name == name

end Declaration

/-- The drawing of the shape that a statement names, looked up among the shapes of a source. -/
def DrawStatement.resolve (shapes : List Shape) (statement : DrawStatement) :
    Except ParseError Draw :=
  match shapes.find? fun shape => shape.name == statement.shapeName with
  | some shape => .ok ⟨shape, statement.x, statement.y, statement.span⟩
  | none => .error (.unknownShape statement.shapeName statement.nameSpan)

/-- The scene of the declarations of a source. -/
def Scene.ofDeclarations (declarations : List Declaration) : Except ParseError Scene := do
  let shapes := declarations.filterMap Declaration.shape?
  let draws ← (declarations.filterMap Declaration.draw?).mapM (DrawStatement.resolve shapes)
  return ⟨draws⟩

end TurtleScene
