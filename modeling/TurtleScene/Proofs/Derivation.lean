/-
**Derivations of the grammar.**

A derivation tree has one constructor for each alternative of the grammar. Its leaves are tokens: a
terminal is stored by its place, and by its text where it has one; the places are free, so a
sequence of tokens is derived by its kinds alone.

```
scene       := item*
item        := shape_def | draw_stmt
shape_def   := "shape" IDENT "{" "pencil" color ";" rule* "axiom" block "}"
color       := IDENT | HEX_COLOR | STRING
rule        := "rule" IDENT "(" IDENT ")" block
block       := "{" instruction* "}"
instruction := ("left" | "right" | "line") "(" opt_expr ")" ";"
             | ("push" | "pop") ";"
             | "jump" "(" opt_expr "," opt_expr ")" ";"
             | IDENT "=" expr ";"
             | IDENT "(" opt_expr ")" ";"
draw_stmt   := "draw" IDENT ["at" "(" opt_expr "," opt_expr ")"] ";"
opt_expr    := <empty> | expr
expr        := INT | FLOAT | STRING | IDENT | "-" INT | "-" FLOAT
```

* `tokens` — the sequence that a tree derives, from left to right.
* `operand`, `instruction`, `shape`, … — the part of a scene that a tree denotes.
* `expressions` — the expressions in a tree. `ExpressionTree.InRange` bounds what integer one may
  be.
* `SceneTree.covers` — the tokens of a tree hold those of its expressions, and not the end.
* `SceneTree.Denotes` — the scene of a tree: every draw statement with the shape it names.
-/

import Mathlib.Algebra.Group.Int.Defs
import Mathlib.Data.List.Forall2
import TurtleScene.Number.Rounding
import TurtleScene.Scene.Declaration

namespace TurtleScene

/-! ### Expressions -/

/-- `expr` -/
inductive ExpressionTree
  | integer (digits : String) (place : Span)
  | decimal (text : String) (place : Span)
  | string (text : String) (place : Span)
  | name (text : String) (place : Span)
  | negativeInteger (minus : Span) (digits : String) (place : Span)
  | negativeDecimal (minus : Span) (text : String) (place : Span)

/-- The text behind a minus sign, if there is one in front. -/
def Integer.unsigned : List Char → List Char
  | '-' :: digits => digits
  | digits => digits

/-- The integer that digits write, behind a minus sign or without one. -/
def Integer.ofText : List Char → Int
  | '-' :: digits => -Numeral.value digits
  | digits => Numeral.value digits

/-- The decimal fraction that digits with a point between them write. -/
def Decimal.ofText (text : List Char) : Decimal :=
  let fraction := (text.dropWhile Char.isDigit).tail
  ⟨Numeral.value (text.takeWhile Char.isDigit ++ fraction), fraction.length⟩

/-- The number nearest to the decimal fraction that a text writes. -/
def Binary64.ofText (text : String) : Binary64 :=
  .ofParts false (nearestDecimal (Decimal.ofText text.toList))

namespace ExpressionTree

/-- The sequence that an expression derives. -/
def tokens : ExpressionTree → List Token
  | .integer digits place => [⟨.integer digits, place⟩]
  | .decimal text place => [⟨.decimal text, place⟩]
  | .string text place => [⟨.string text, place⟩]
  | .name text place => [⟨.identifier text, place⟩]
  | .negativeInteger minus digits place => [⟨.mark .minus, minus⟩, ⟨.integer digits, place⟩]
  | .negativeDecimal minus text place => [⟨.mark .minus, minus⟩, ⟨.decimal text, place⟩]

/-- The integer that is written, its sign included, if one is. -/
def integer? : ExpressionTree → Option Int
  | .integer digits _ => some (Integer.ofText digits.toList)
  | .negativeInteger _ digits _ => some (Integer.ofText ('-' :: digits.toList))
  | .decimal _ _ | .string _ _ | .name _ _ | .negativeDecimal _ _ _ => none

/-- An integer that is written has 64 bits. -/
def InRange (expression : ExpressionTree) : Prop :=
  ∀ value, expression.integer? = some value → -2 ^ 63 ≤ value ∧ value ≤ 2 ^ 63 - 1

/-- The literal that is written. -/
def literal : ExpressionTree → Literal
  | .integer digits _ => .integer (Int64.ofInt (Integer.ofText digits.toList))
  | .decimal text _ => .real (Binary64.ofText text)
  | .string text _ => .text text
  | .name text _ => .name text
  | .negativeInteger _ digits _ =>
    .integer (Int64.ofInt (Integer.ofText ('-' :: digits.toList)))
  | .negativeDecimal _ text _ => .real (Binary64.ofText text).negate

/-- The place of an expression, its sign included. -/
def span : ExpressionTree → Span
  | .integer _ place | .decimal _ place | .string _ place | .name _ place => place
  | .negativeInteger minus _ place | .negativeDecimal minus _ place => minus.merge place

/-- The operand that an expression denotes. -/
def operand (expression : ExpressionTree) : Operand :=
  ⟨.literal expression.literal, expression.span⟩

end ExpressionTree

/-- The sequence that `opt_expr` derives. -/
def optionalTokens : Option ExpressionTree → List Token
  | none => []
  | some expression => expression.tokens

/-- The operand that `opt_expr` denotes. An empty one is where the next token starts. -/
def optionalOperand (next : Span) : Option ExpressionTree → Operand
  | none => ⟨.missing, Span.point next.start⟩
  | some expression => expression.operand

/-- `"(" opt_expr ")"` -/
structure ArgumentTree where
  opening : Span
  content : Option ExpressionTree
  closing : Span

namespace ArgumentTree

/-- The sequence that an argument derives. -/
def tokens (tree : ArgumentTree) : List Token :=
  ⟨.mark .leftParen, tree.opening⟩ ::
    (optionalTokens tree.content ++ [⟨.mark .rightParen, tree.closing⟩])

/-- The expressions in an argument. -/
def expressions (tree : ArgumentTree) : List ExpressionTree := tree.content.toList

/-- The operand that an argument denotes. -/
def operand (tree : ArgumentTree) : Operand := optionalOperand tree.closing tree.content

end ArgumentTree

/-- `"(" opt_expr "," opt_expr ")"` -/
structure PairTree where
  opening : Span
  first : Option ExpressionTree
  comma : Span
  second : Option ExpressionTree
  closing : Span

namespace PairTree

/-- The sequence that a pair derives. -/
def tokens (tree : PairTree) : List Token :=
  ⟨.mark .leftParen, tree.opening⟩ ::
    (optionalTokens tree.first ++ [⟨.mark .comma, tree.comma⟩] ++
      (optionalTokens tree.second ++ [⟨.mark .rightParen, tree.closing⟩]))

/-- The expressions in a pair. -/
def expressions (tree : PairTree) : List ExpressionTree := tree.first.toList ++ tree.second.toList

/-- The operands that a pair denotes. -/
def operands (tree : PairTree) : Operand × Operand :=
  (optionalOperand tree.comma tree.first, optionalOperand tree.closing tree.second)

end PairTree

/-! ### Instructions -/

/-- `instruction` up to its semicolon -/
inductive FormTree
  | left (word : Span) (argument : ArgumentTree)
  | right (word : Span) (argument : ArgumentTree)
  | line (word : Span) (argument : ArgumentTree)
  | push (word : Span)
  | pop (word : Span)
  | jump (word : Span) (target : PairTree)
  | assign (name : String) (place equals : Span) (value : ExpressionTree)
  | call (name : String) (place : Span) (argument : ArgumentTree)

namespace FormTree

/-- The first token of an instruction. -/
def firstToken : FormTree → Token
  | .left word _ => ⟨.keyword .left, word⟩
  | .right word _ => ⟨.keyword .right, word⟩
  | .line word _ => ⟨.keyword .line, word⟩
  | .push word => ⟨.keyword .push, word⟩
  | .pop word => ⟨.keyword .pop, word⟩
  | .jump word _ => ⟨.keyword .jump, word⟩
  | .assign name place _ _ => ⟨.identifier name, place⟩
  | .call name place _ => ⟨.identifier name, place⟩

/-- The tokens behind the first one. -/
def otherTokens : FormTree → List Token
  | .left _ argument | .right _ argument | .line _ argument | .call _ _ argument => argument.tokens
  | .push _ | .pop _ => []
  | .jump _ target => target.tokens
  | .assign _ _ equals value => ⟨.mark .equals, equals⟩ :: value.tokens

/-- The sequence that an instruction derives up to its semicolon. -/
def tokens (tree : FormTree) : List Token := tree.firstToken :: tree.otherTokens

/-- The expressions in an instruction. -/
def expressions : FormTree → List ExpressionTree
  | .left _ argument | .right _ argument | .line _ argument | .call _ _ argument =>
    argument.expressions
  | .push _ | .pop _ => []
  | .jump _ target => target.expressions
  | .assign _ _ _ value => [value]

/-- What the turtle does by an instruction. -/
def form : FormTree → InstructionForm
  | .left _ argument => .left argument.operand
  | .right _ argument => .right argument.operand
  | .line _ argument => .line argument.operand
  | .push _ => .push
  | .pop _ => .pop
  | .jump _ target => .jump target.operands.1 target.operands.2
  | .assign name _ _ value => .assign name value.operand
  | .call name _ argument => .call name argument.operand

end FormTree

/-- `instruction` -/
structure InstructionTree where
  form : FormTree
  semicolon : Span

namespace InstructionTree

/-- The sequence that an instruction derives. -/
def tokens (tree : InstructionTree) : List Token :=
  tree.form.tokens ++ [⟨.mark .semicolon, tree.semicolon⟩]

/-- The expressions in an instruction. -/
def expressions (tree : InstructionTree) : List ExpressionTree := tree.form.expressions

/-- The instruction that a tree denotes. -/
def instruction (tree : InstructionTree) : Instruction :=
  ⟨tree.form.form, tree.form.firstToken.span.merge tree.semicolon⟩

end InstructionTree

/-- `block` -/
structure BlockTree where
  opening : Span
  body : List InstructionTree
  closing : Span

namespace BlockTree

/-- The sequence that a block derives. -/
def tokens (tree : BlockTree) : List Token :=
  ⟨.mark .leftBrace, tree.opening⟩ ::
    (tree.body.flatMap InstructionTree.tokens ++ [⟨.mark .rightBrace, tree.closing⟩])

/-- The expressions in a block. -/
def expressions (tree : BlockTree) : List ExpressionTree :=
  tree.body.flatMap InstructionTree.expressions

/-- The instructions that a block denotes. -/
def instructions (tree : BlockTree) : List Instruction :=
  tree.body.map InstructionTree.instruction

/-- The place of a block. -/
def span (tree : BlockTree) : Span := tree.opening.merge tree.closing

end BlockTree

/-! ### Shapes and draw statements -/

/-- `rule` -/
structure RuleTree where
  word : Span
  name : String
  namePlace : Span
  opening : Span
  parameter : String
  parameterPlace : Span
  closing : Span
  block : BlockTree

namespace RuleTree

/-- The sequence that a rule derives. -/
def tokens (tree : RuleTree) : List Token :=
  ⟨.keyword .rule, tree.word⟩ :: ⟨.identifier tree.name, tree.namePlace⟩ ::
    ⟨.mark .leftParen, tree.opening⟩ :: ⟨.identifier tree.parameter, tree.parameterPlace⟩ ::
    ⟨.mark .rightParen, tree.closing⟩ :: tree.block.tokens

/-- The expressions in a rule. -/
def expressions (tree : RuleTree) : List ExpressionTree := tree.block.expressions

/-- The rule that a tree denotes. -/
def rule (tree : RuleTree) : Rule :=
  ⟨tree.name, tree.parameter, tree.block.instructions, tree.word.merge tree.block.span⟩

end RuleTree

/-- `"axiom" block` -/
structure InitiatorTree where
  word : Span
  block : BlockTree

namespace InitiatorTree

/-- The sequence that a start sequence derives. -/
def tokens (tree : InitiatorTree) : List Token :=
  ⟨.keyword .initiator, tree.word⟩ :: tree.block.tokens

/-- The expressions in a start sequence. -/
def expressions (tree : InitiatorTree) : List ExpressionTree := tree.block.expressions

/-- The start sequence that a tree denotes. -/
def initiator (tree : InitiatorTree) : Initiator :=
  ⟨tree.block.instructions, tree.word.merge tree.block.span⟩

end InitiatorTree

/-- `color` -/
inductive ColorTree
  | identifier (text : String) (place : Span)
  | color (text : String) (place : Span)
  | string (text : String) (place : Span)

namespace ColorTree

/-- The token that a colour is. -/
def token : ColorTree → Token
  | .identifier text place => ⟨.identifier text, place⟩
  | .color text place => ⟨.color text, place⟩
  | .string text place => ⟨.string text, place⟩

/-- The colour that is written. -/
def text : ColorTree → String
  | .identifier text _ | .color text _ | .string text _ => text

end ColorTree

/-- `shape_def` -/
structure ShapeTree where
  word : Span
  name : String
  namePlace : Span
  opening : Span
  pencilWord : Span
  pencil : ColorTree
  semicolon : Span
  rules : List RuleTree
  initiator : InitiatorTree
  closing : Span

namespace ShapeTree

/-- The sequence that the definition of a shape derives. -/
def tokens (tree : ShapeTree) : List Token :=
  ⟨.keyword .shape, tree.word⟩ :: ⟨.identifier tree.name, tree.namePlace⟩ ::
    ⟨.mark .leftBrace, tree.opening⟩ :: ⟨.keyword .pencil, tree.pencilWord⟩ ::
    tree.pencil.token :: ⟨.mark .semicolon, tree.semicolon⟩ ::
    (tree.rules.flatMap RuleTree.tokens ++
      (tree.initiator.tokens ++ [⟨.mark .rightBrace, tree.closing⟩]))

/-- The expressions in the definition of a shape. -/
def expressions (tree : ShapeTree) : List ExpressionTree :=
  tree.rules.flatMap RuleTree.expressions ++ tree.initiator.expressions

/-- The shape that a definition denotes. -/
def shape (tree : ShapeTree) : Shape :=
  ⟨tree.name, tree.pencil.text, tree.pencil.token.span, tree.rules.map RuleTree.rule,
    tree.initiator.initiator, tree.word.merge tree.closing⟩

end ShapeTree

/-- `"at" "(" opt_expr "," opt_expr ")"` -/
structure PositionTree where
  word : Span
  target : PairTree

/-- The sequence that the place of a draw statement derives, if it has one. -/
def positionTokens : Option PositionTree → List Token
  | none => []
  | some position => ⟨.keyword .position, position.word⟩ :: position.target.tokens

/-- The coordinates of a draw statement. Without any, both are left out behind the name. -/
def positionOperands (namePlace : Span) : Option PositionTree → Operand × Operand
  | none => (⟨.missing, Span.point namePlace.stop⟩, ⟨.missing, Span.point namePlace.stop⟩)
  | some position => position.target.operands

/-- `draw_stmt` -/
structure DrawTree where
  word : Span
  name : String
  namePlace : Span
  position : Option PositionTree
  semicolon : Span

namespace DrawTree

/-- The sequence that a draw statement derives. -/
def tokens (tree : DrawTree) : List Token :=
  ⟨.keyword .draw, tree.word⟩ :: ⟨.identifier tree.name, tree.namePlace⟩ ::
    (positionTokens tree.position ++ [⟨.mark .semicolon, tree.semicolon⟩])

/-- The expressions in a draw statement. -/
def expressions (tree : DrawTree) : List ExpressionTree :=
  tree.position.toList.flatMap fun position => position.target.expressions

/-- The draw statement that a tree denotes. -/
def statement (tree : DrawTree) : DrawStatement :=
  ⟨tree.name, tree.namePlace, (positionOperands tree.namePlace tree.position).1,
    (positionOperands tree.namePlace tree.position).2, tree.word.merge tree.semicolon⟩

/-- A draw statement denotes the drawing of a shape, at its coordinates and its place. -/
def draw (tree : DrawTree) (shape : Shape) : Draw :=
  ⟨shape, (positionOperands tree.namePlace tree.position).1,
    (positionOperands tree.namePlace tree.position).2, tree.word.merge tree.semicolon⟩

end DrawTree

/-! ### Scenes -/

/-- `item` -/
inductive ItemTree
  | shape (definition : ShapeTree)
  | draw (statement : DrawTree)

namespace ItemTree

/-- The sequence that an item derives. -/
def tokens : ItemTree → List Token
  | .shape definition => definition.tokens
  | .draw statement => statement.tokens

/-- The expressions in an item. -/
def expressions : ItemTree → List ExpressionTree
  | .shape definition => definition.expressions
  | .draw statement => statement.expressions

/-- The declaration that an item denotes. -/
def declaration : ItemTree → Declaration
  | .shape definition => .shape definition.shape
  | .draw statement => .draw statement.statement

/-- The definition of a shape that an item is, if it is one. -/
def shape? : ItemTree → Option ShapeTree
  | .shape definition => some definition
  | .draw _ => none

/-- The draw statement that an item is, if it is one. -/
def draw? : ItemTree → Option DrawTree
  | .shape _ => none
  | .draw statement => some statement

end ItemTree

/-- `scene` -/
structure SceneTree where
  items : List ItemTree

namespace SceneTree

/-- The sequence that a scene derives. -/
def tokens (tree : SceneTree) : List Token := tree.items.flatMap ItemTree.tokens

/-- The expressions in a scene. -/
def expressions (tree : SceneTree) : List ExpressionTree := tree.items.flatMap ItemTree.expressions

/-- The definitions of shapes, in order. -/
def shapes (tree : SceneTree) : List ShapeTree := tree.items.filterMap ItemTree.shape?

/-- The draw statements, in order. -/
def draws (tree : SceneTree) : List DrawTree := tree.items.filterMap ItemTree.draw?

/-- The declarations that a scene denotes, in order. -/
def declarations (tree : SceneTree) : List Declaration := tree.items.map ItemTree.declaration

/-- **A tree denotes a scene** of one draw for each of its draw statements, in order, with the shape
that some definition of the name denotes. -/
def Denotes (tree : SceneTree) (scene : Scene) : Prop :=
  List.Forall₂ (fun statement draw => ∃ definition ∈ tree.shapes,
    definition.name = statement.name ∧ draw = statement.draw definition.shape)
    tree.draws scene.draws

end SceneTree

/-! ### The tokens of a tree -/

/-- Tokens of a source, the tokens of some expressions among them. -/
structure Covers (tokens : List Token) (expressions : List ExpressionTree) : Prop where
  inside : ∀ token ∈ tokens, token.kind ≠ .endOfFile
  contains : ∀ expression ∈ expressions, expression.tokens ⊆ tokens

namespace Covers

variable {tokens others : List Token} {expressions further : List ExpressionTree}

theorem nil : Covers [] [] := ⟨nofun, nofun⟩

theorem cons {token : Token} (covers : Covers tokens expressions)
    (inside : token.kind ≠ .endOfFile) : Covers (token :: tokens) expressions :=
  ⟨List.forall_mem_cons.mpr ⟨inside, covers.inside⟩, fun expression member =>
    List.subset_cons_of_subset token (covers.contains expression member)⟩

theorem append (front : Covers tokens expressions) (behind : Covers others further) :
    Covers (tokens ++ others) (expressions ++ further) := by
  refine ⟨List.forall_mem_append.mpr ⟨front.inside, behind.inside⟩,
    List.forall_mem_append.mpr ⟨?_, ?_⟩⟩
  · intro expression member
    exact List.subset_append_of_subset_left others (front.contains expression member)
  · intro expression member
    exact List.subset_append_of_subset_right tokens (behind.contains expression member)

theorem close {token : Token} (covers : Covers tokens expressions)
    (inside : token.kind ≠ .endOfFile) : Covers (tokens ++ [token]) expressions := by
  have all := covers.append (nil.cons inside)
  rwa [List.append_nil] at all

theorem flatMap {Tree : Type} {tokens : Tree → List Token}
    {expressions : Tree → List ExpressionTree}
    (each : ∀ tree, Covers (tokens tree) (expressions tree)) (trees : List Tree) :
    Covers (trees.flatMap tokens) (trees.flatMap expressions) := by
  induction trees with
  | nil => exact nil
  | cons tree others ih => exact (each tree).append ih

end Covers

theorem ExpressionTree.covers (tree : ExpressionTree) : Covers tree.tokens [tree] := by
  refine ⟨?_, by simp⟩
  cases tree <;> simp [tokens]

theorem covers_optional (content : Option ExpressionTree) :
    Covers (optionalTokens content) content.toList := by
  cases content with
  | none => exact .nil
  | some tree => exact tree.covers

theorem ArgumentTree.covers (tree : ArgumentTree) : Covers tree.tokens tree.expressions :=
  ((covers_optional tree.content).close (by simp)).cons (by simp)

theorem PairTree.covers (tree : PairTree) : Covers tree.tokens tree.expressions :=
  (((covers_optional tree.first).close (by simp)).append
    ((covers_optional tree.second).close (by simp))).cons (by simp)

theorem FormTree.covers (tree : FormTree) : Covers tree.tokens tree.expressions := by
  have first : tree.firstToken.kind ≠ .endOfFile := by
    cases tree <;> simp [firstToken]
  refine Covers.cons ?_ first
  cases tree with
  | left _ argument | right _ argument | line _ argument | call _ _ argument =>
    exact argument.covers
  | push _ | pop _ => exact .nil
  | jump _ target => exact target.covers
  | assign _ _ _ value => exact value.covers.cons (by simp)

theorem InstructionTree.covers (tree : InstructionTree) : Covers tree.tokens tree.expressions :=
  tree.form.covers.close (by simp)

theorem BlockTree.covers (tree : BlockTree) : Covers tree.tokens tree.expressions :=
  ((Covers.flatMap InstructionTree.covers tree.body).close (by simp)).cons (by simp)

theorem RuleTree.covers (tree : RuleTree) : Covers tree.tokens tree.expressions := by
  have block : Covers tree.block.tokens tree.expressions := tree.block.covers
  exact ((((block.cons (by simp)).cons (by simp)).cons (by simp)).cons (by simp)).cons (by simp)

theorem InitiatorTree.covers (tree : InitiatorTree) : Covers tree.tokens tree.expressions :=
  tree.block.covers.cons (by simp)

theorem ColorTree.kind_ne_endOfFile (tree : ColorTree) : tree.token.kind ≠ .endOfFile := by
  cases tree <;> simp [token]

theorem ShapeTree.covers (tree : ShapeTree) : Covers tree.tokens tree.expressions := by
  have body : Covers (⟨.mark .semicolon, tree.semicolon⟩ :: (tree.rules.flatMap RuleTree.tokens ++
      (tree.initiator.tokens ++ [⟨.mark .rightBrace, tree.closing⟩]))) tree.expressions :=
    ((Covers.flatMap RuleTree.covers tree.rules).append
      (tree.initiator.covers.close (by simp))).cons (by simp)
  have pencil := body.cons tree.pencil.kind_ne_endOfFile
  exact (((pencil.cons (by simp)).cons (by simp)).cons (by simp)).cons (by simp)

theorem DrawTree.covers (tree : DrawTree) : Covers tree.tokens tree.expressions := by
  have position : Covers (positionTokens tree.position) tree.expressions := by
    rw [expressions]
    cases tree.position with
    | none => exact .nil
    | some position =>
      rw [Option.toList_some, List.flatMap_singleton]
      exact position.target.covers.cons (by simp)
  exact ((position.close (by simp)).cons (by simp)).cons (by simp)

theorem ItemTree.covers (tree : ItemTree) : Covers tree.tokens tree.expressions := by
  cases tree with
  | shape definition => exact definition.covers
  | draw statement => exact statement.covers

/-- **The tokens of a tree hold those of its expressions**, and none is the end of the source. -/
theorem SceneTree.covers (tree : SceneTree) : Covers tree.tokens tree.expressions :=
  Covers.flatMap ItemTree.covers tree.items

end TurtleScene
