/-
**Moving a derivation.**

A tree keeps its form when its places change: it then derives the changed tokens, and it denotes the
changed scene if the change keeps how places are made from each other. Moving along the text does
so, and so does forgetting all places.

* `Relocates` — a change of places that keeps joins, and the empty places beside a token.
* `tokens_mapSpans`, `operand_mapSpans`, `shape_mapSpans`, … — what a changed tree derives and
  denotes.
* **`SceneTree.tokens_mapSpans`**, **`SceneTree.declarations_mapSpans`** — the same for scenes.
-/

import TurtleScene.Proofs.Derivation
import TurtleScene.Proofs.Lists
import TurtleScene.Proofs.Newline
import TurtleScene.Scene.Placement

namespace TurtleScene

/-- A change of places that keeps how the parser makes one place from others. -/
structure Relocates (change : Span → Span) : Prop where
  merge : ∀ first second, change (first.merge second) = (change first).merge (change second)
  before : ∀ span, change (Span.point span.start) = Span.point (change span).start
  behind : ∀ span, change (Span.point span.stop) = Span.point (change span).stop

theorem relocates_shift (distance : Nat) : Relocates (Span.shift distance) :=
  ⟨Span.shift_merge distance, fun _ => rfl, fun _ => rfl⟩

theorem relocates_const (offset : Nat) : Relocates fun _ => Span.point offset :=
  ⟨fun _ _ => (Span.merge_self _).symm, fun _ => rfl, fun _ => rfl⟩

section Expressions

variable (change : Span → Span)

namespace ExpressionTree

/-- Changes the places in an expression. -/
def mapSpans : ExpressionTree → ExpressionTree
  | .integer digits place => .integer digits (change place)
  | .decimal text place => .decimal text (change place)
  | .string text place => .string text (change place)
  | .name text place => .name text (change place)
  | .negativeInteger minus digits place => .negativeInteger (change minus) digits (change place)
  | .negativeDecimal minus text place => .negativeDecimal (change minus) text (change place)

@[simp] theorem tokens_mapSpans (tree : ExpressionTree) :
    (tree.mapSpans change).tokens = tree.tokens.map (Token.mapSpans change) := by
  cases tree <;> rfl

@[simp] theorem inRange_mapSpans (tree : ExpressionTree) :
    (tree.mapSpans change).InRange ↔ tree.InRange := by
  cases tree <;> exact Iff.rfl

variable {change}

theorem operand_mapSpans (relocates : Relocates change) (tree : ExpressionTree) :
    (tree.mapSpans change).operand = tree.operand.mapSpans change := by
  cases tree with
  | integer _ _ | decimal _ _ | string _ _ | name _ _ => rfl
  | negativeInteger minus _ place | negativeDecimal minus _ place =>
    exact congrArg (Operand.mk _) (relocates.merge minus place).symm

end ExpressionTree

end Expressions

variable {change : Span → Span}

theorem optionalTokens_map (change : Span → Span) (content : Option ExpressionTree) :
    optionalTokens (content.map (ExpressionTree.mapSpans change)) =
      (optionalTokens content).map (Token.mapSpans change) := by
  cases content with
  | none => rfl
  | some tree => exact tree.tokens_mapSpans change

theorem optionalOperand_map (relocates : Relocates change) (next : Span)
    (content : Option ExpressionTree) :
    optionalOperand (change next) (content.map (ExpressionTree.mapSpans change)) =
      (optionalOperand next content).mapSpans change := by
  cases content with
  | none => exact congrArg (Operand.mk _) (relocates.before next).symm
  | some tree => exact tree.operand_mapSpans relocates

namespace ArgumentTree

/-- Changes the places in an argument. -/
def mapSpans (change : Span → Span) (tree : ArgumentTree) : ArgumentTree :=
  ⟨change tree.opening, tree.content.map (ExpressionTree.mapSpans change), change tree.closing⟩

theorem tokens_mapSpans (change : Span → Span) (tree : ArgumentTree) :
    (tree.mapSpans change).tokens = tree.tokens.map (Token.mapSpans change) := by
  simp [tokens, mapSpans, optionalTokens_map, Token.mapSpans]

theorem expressions_mapSpans (change : Span → Span) (tree : ArgumentTree) :
    (tree.mapSpans change).expressions =
      tree.expressions.map (ExpressionTree.mapSpans change) := by
  simp [expressions, mapSpans, Option.toList_map]

theorem operand_mapSpans (relocates : Relocates change) (tree : ArgumentTree) :
    (tree.mapSpans change).operand = tree.operand.mapSpans change :=
  optionalOperand_map relocates tree.closing tree.content

end ArgumentTree

namespace PairTree

/-- Changes the places in a pair. -/
def mapSpans (change : Span → Span) (tree : PairTree) : PairTree :=
  ⟨change tree.opening, tree.first.map (ExpressionTree.mapSpans change), change tree.comma,
    tree.second.map (ExpressionTree.mapSpans change), change tree.closing⟩

theorem tokens_mapSpans (change : Span → Span) (tree : PairTree) :
    (tree.mapSpans change).tokens = tree.tokens.map (Token.mapSpans change) := by
  simp [tokens, mapSpans, optionalTokens_map, Token.mapSpans]

theorem expressions_mapSpans (change : Span → Span) (tree : PairTree) :
    (tree.mapSpans change).expressions =
      tree.expressions.map (ExpressionTree.mapSpans change) := by
  simp [expressions, mapSpans, Option.toList_map]

theorem operands_mapSpans (relocates : Relocates change) (tree : PairTree) :
    (tree.mapSpans change).operands =
      (tree.operands.1.mapSpans change, tree.operands.2.mapSpans change) := by
  exact Prod.ext (optionalOperand_map relocates tree.comma tree.first)
    (optionalOperand_map relocates tree.closing tree.second)

end PairTree

/-! ### Instructions -/

namespace FormTree

/-- Changes the places in an instruction up to its semicolon. -/
def mapSpans (change : Span → Span) : FormTree → FormTree
  | .left word argument => .left (change word) (argument.mapSpans change)
  | .right word argument => .right (change word) (argument.mapSpans change)
  | .line word argument => .line (change word) (argument.mapSpans change)
  | .push word => .push (change word)
  | .pop word => .pop (change word)
  | .jump word target => .jump (change word) (target.mapSpans change)
  | .assign name place equals value =>
    .assign name (change place) (change equals) (value.mapSpans change)
  | .call name place argument => .call name (change place) (argument.mapSpans change)

theorem firstToken_mapSpans (change : Span → Span) (tree : FormTree) :
    (tree.mapSpans change).firstToken = tree.firstToken.mapSpans change := by
  cases tree <;> rfl

theorem tokens_mapSpans (change : Span → Span) (tree : FormTree) :
    (tree.mapSpans change).tokens = tree.tokens.map (Token.mapSpans change) := by
  rw [tokens, tokens, List.map_cons, firstToken_mapSpans]
  congr 1
  cases tree with
  | left _ argument | right _ argument | line _ argument | call _ _ argument =>
    exact argument.tokens_mapSpans change
  | push _ | pop _ => rfl
  | jump _ target => exact target.tokens_mapSpans change
  | assign _ _ equals value => exact congrArg (List.cons _) (value.tokens_mapSpans change)

theorem expressions_mapSpans (change : Span → Span) (tree : FormTree) :
    (tree.mapSpans change).expressions =
      tree.expressions.map (ExpressionTree.mapSpans change) := by
  cases tree with
  | left _ argument | right _ argument | line _ argument | call _ _ argument =>
    exact argument.expressions_mapSpans change
  | push _ | pop _ | assign _ _ _ _ => rfl
  | jump _ target => exact target.expressions_mapSpans change

theorem form_mapSpans (relocates : Relocates change) (tree : FormTree) :
    (tree.mapSpans change).form = tree.form.mapSpans change := by
  cases tree with
  | left _ argument => exact congrArg InstructionForm.left (argument.operand_mapSpans relocates)
  | right _ argument => exact congrArg InstructionForm.right (argument.operand_mapSpans relocates)
  | line _ argument => exact congrArg InstructionForm.line (argument.operand_mapSpans relocates)
  | push _ | pop _ => rfl
  | jump _ target =>
    have both := target.operands_mapSpans relocates
    exact congrArg₂ InstructionForm.jump (congrArg Prod.fst both) (congrArg Prod.snd both)
  | assign name _ _ value =>
    exact congrArg (InstructionForm.assign name) (value.operand_mapSpans relocates)
  | call name _ argument =>
    exact congrArg (InstructionForm.call name) (argument.operand_mapSpans relocates)

end FormTree

namespace InstructionTree

/-- Changes the places in an instruction. -/
def mapSpans (change : Span → Span) (tree : InstructionTree) : InstructionTree :=
  ⟨tree.form.mapSpans change, change tree.semicolon⟩

theorem tokens_mapSpans (change : Span → Span) (tree : InstructionTree) :
    (tree.mapSpans change).tokens = tree.tokens.map (Token.mapSpans change) := by
  simp [tokens, mapSpans, FormTree.tokens_mapSpans, Token.mapSpans]

theorem expressions_mapSpans (change : Span → Span) (tree : InstructionTree) :
    (tree.mapSpans change).expressions =
      tree.expressions.map (ExpressionTree.mapSpans change) :=
  tree.form.expressions_mapSpans change

theorem instruction_mapSpans (relocates : Relocates change) (tree : InstructionTree) :
    (tree.mapSpans change).instruction = tree.instruction.mapSpans change := by
  rw [instruction, instruction, mapSpans, Instruction.mapSpans, FormTree.form_mapSpans relocates,
    FormTree.firstToken_mapSpans, relocates.merge]
  rfl

end InstructionTree

namespace BlockTree

/-- Changes the places in a block. -/
def mapSpans (change : Span → Span) (tree : BlockTree) : BlockTree :=
  ⟨change tree.opening, tree.body.map (InstructionTree.mapSpans change), change tree.closing⟩

theorem tokens_mapSpans (change : Span → Span) (tree : BlockTree) :
    (tree.mapSpans change).tokens = tree.tokens.map (Token.mapSpans change) := by
  have body := flatMap_map_of (InstructionTree.tokens_mapSpans change) tree.body
  simp [tokens, mapSpans, body, Token.mapSpans]

theorem expressions_mapSpans (change : Span → Span) (tree : BlockTree) :
    (tree.mapSpans change).expressions =
      tree.expressions.map (ExpressionTree.mapSpans change) :=
  flatMap_map_of (InstructionTree.expressions_mapSpans change) tree.body

theorem instructions_mapSpans (relocates : Relocates change) (tree : BlockTree) :
    (tree.mapSpans change).instructions = tree.instructions.map (Instruction.mapSpans change) := by
  rw [instructions, instructions, mapSpans, List.map_map, List.map_map]
  exact List.map_congr_left fun part _ => part.instruction_mapSpans relocates

theorem span_mapSpans (relocates : Relocates change) (tree : BlockTree) :
    (tree.mapSpans change).span = change tree.span :=
  (relocates.merge tree.opening tree.closing).symm

end BlockTree

/-! ### Shapes and draw statements -/

namespace RuleTree

/-- Changes the places in a rule. -/
def mapSpans (change : Span → Span) (tree : RuleTree) : RuleTree :=
  ⟨change tree.word, tree.name, change tree.namePlace, change tree.opening, tree.parameter,
    change tree.parameterPlace, change tree.closing, tree.block.mapSpans change⟩

theorem tokens_mapSpans (change : Span → Span) (tree : RuleTree) :
    (tree.mapSpans change).tokens = tree.tokens.map (Token.mapSpans change) := by
  simp [tokens, mapSpans, BlockTree.tokens_mapSpans, Token.mapSpans]

theorem expressions_mapSpans (change : Span → Span) (tree : RuleTree) :
    (tree.mapSpans change).expressions =
      tree.expressions.map (ExpressionTree.mapSpans change) :=
  tree.block.expressions_mapSpans change

theorem rule_mapSpans (relocates : Relocates change) (tree : RuleTree) :
    (tree.mapSpans change).rule = tree.rule.mapSpans change := by
  simp only [rule, mapSpans, Rule.mapSpans, tree.block.instructions_mapSpans relocates,
    tree.block.span_mapSpans relocates, relocates.merge]

end RuleTree

namespace InitiatorTree

/-- Changes the places in a start sequence. -/
def mapSpans (change : Span → Span) (tree : InitiatorTree) : InitiatorTree :=
  ⟨change tree.word, tree.block.mapSpans change⟩

theorem tokens_mapSpans (change : Span → Span) (tree : InitiatorTree) :
    (tree.mapSpans change).tokens = tree.tokens.map (Token.mapSpans change) := by
  simp [tokens, mapSpans, BlockTree.tokens_mapSpans, Token.mapSpans]

theorem expressions_mapSpans (change : Span → Span) (tree : InitiatorTree) :
    (tree.mapSpans change).expressions =
      tree.expressions.map (ExpressionTree.mapSpans change) :=
  tree.block.expressions_mapSpans change

theorem initiator_mapSpans (relocates : Relocates change) (tree : InitiatorTree) :
    (tree.mapSpans change).initiator = tree.initiator.mapSpans change := by
  simp only [initiator, mapSpans, Initiator.mapSpans, tree.block.instructions_mapSpans relocates,
    tree.block.span_mapSpans relocates, relocates.merge]

end InitiatorTree

namespace ColorTree

/-- Changes the place of a colour. -/
def mapSpans (change : Span → Span) : ColorTree → ColorTree
  | .identifier text place => .identifier text (change place)
  | .color text place => .color text (change place)
  | .string text place => .string text (change place)

theorem token_mapSpans (change : Span → Span) (tree : ColorTree) :
    (tree.mapSpans change).token = tree.token.mapSpans change := by
  cases tree <;> rfl

theorem text_mapSpans (change : Span → Span) (tree : ColorTree) :
    (tree.mapSpans change).text = tree.text := by
  cases tree <;> rfl

end ColorTree

namespace ShapeTree

/-- Changes the places in the definition of a shape. -/
def mapSpans (change : Span → Span) (tree : ShapeTree) : ShapeTree :=
  ⟨change tree.word, tree.name, change tree.namePlace, change tree.opening,
    change tree.pencilWord, tree.pencil.mapSpans change, change tree.semicolon,
    tree.rules.map (RuleTree.mapSpans change), tree.initiator.mapSpans change,
    change tree.closing⟩

theorem tokens_mapSpans (change : Span → Span) (tree : ShapeTree) :
    (tree.mapSpans change).tokens = tree.tokens.map (Token.mapSpans change) := by
  have rules := flatMap_map_of (RuleTree.tokens_mapSpans change) tree.rules
  simp [tokens, mapSpans, rules, InitiatorTree.tokens_mapSpans, ColorTree.token_mapSpans,
    Token.mapSpans]

theorem expressions_mapSpans (change : Span → Span) (tree : ShapeTree) :
    (tree.mapSpans change).expressions =
      tree.expressions.map (ExpressionTree.mapSpans change) := by
  have rules := flatMap_map_of (RuleTree.expressions_mapSpans change) tree.rules
  simp [expressions, mapSpans, rules, InitiatorTree.expressions_mapSpans]

theorem shape_mapSpans (relocates : Relocates change) (tree : ShapeTree) :
    (tree.mapSpans change).shape = tree.shape.mapSpans change := by
  have rules : (tree.rules.map (RuleTree.mapSpans change)).map RuleTree.rule =
      (tree.rules.map RuleTree.rule).map (Rule.mapSpans change) := by
    rw [List.map_map, List.map_map]
    exact List.map_congr_left fun rule _ => rule.rule_mapSpans relocates
  simp only [shape, mapSpans, Shape.mapSpans, rules, tree.initiator.initiator_mapSpans relocates,
    ColorTree.token_mapSpans, ColorTree.text_mapSpans, Token.mapSpans, relocates.merge]

end ShapeTree

/-- Changes the places in the coordinates of a draw statement. -/
def PositionTree.mapSpans (change : Span → Span) (tree : PositionTree) : PositionTree :=
  ⟨change tree.word, tree.target.mapSpans change⟩

theorem positionTokens_map (change : Span → Span) (position : Option PositionTree) :
    positionTokens (position.map (PositionTree.mapSpans change)) =
      (positionTokens position).map (Token.mapSpans change) := by
  cases position with
  | none => rfl
  | some tree => exact congrArg (List.cons _) (tree.target.tokens_mapSpans change)

theorem positionOperands_map (relocates : Relocates change) (namePlace : Span)
    (position : Option PositionTree) :
    positionOperands (change namePlace) (position.map (PositionTree.mapSpans change)) =
      ((positionOperands namePlace position).1.mapSpans change,
        (positionOperands namePlace position).2.mapSpans change) := by
  cases position with
  | none =>
    have nowhere := congrArg (Operand.mk .missing) (relocates.behind namePlace).symm
    exact Prod.ext nowhere nowhere
  | some tree => exact tree.target.operands_mapSpans relocates

namespace DrawTree

/-- Changes the places in a draw statement. -/
def mapSpans (change : Span → Span) (tree : DrawTree) : DrawTree :=
  ⟨change tree.word, tree.name, change tree.namePlace,
    tree.position.map (PositionTree.mapSpans change), change tree.semicolon⟩

theorem tokens_mapSpans (change : Span → Span) (tree : DrawTree) :
    (tree.mapSpans change).tokens = tree.tokens.map (Token.mapSpans change) := by
  simp [tokens, mapSpans, positionTokens_map, Token.mapSpans]

theorem expressions_mapSpans (change : Span → Span) (tree : DrawTree) :
    (tree.mapSpans change).expressions =
      tree.expressions.map (ExpressionTree.mapSpans change) := by
  rw [expressions, expressions, mapSpans, Option.toList_map]
  exact flatMap_map_of (fun position => position.target.expressions_mapSpans change) _

end DrawTree

/-- Changes the spans of a draw statement. -/
def DrawStatement.mapSpans (change : Span → Span) (statement : DrawStatement) : DrawStatement :=
  ⟨statement.shapeName, change statement.nameSpan, statement.x.mapSpans change,
    statement.y.mapSpans change, change statement.span⟩

theorem DrawTree.statement_mapSpans (relocates : Relocates change) (tree : DrawTree) :
    (tree.mapSpans change).statement = tree.statement.mapSpans change := by
  simp only [statement, mapSpans, DrawStatement.mapSpans, positionOperands_map relocates,
    relocates.merge]

/-! ### Scenes -/

namespace ItemTree

/-- Changes the places in an item. -/
def mapSpans (change : Span → Span) : ItemTree → ItemTree
  | .shape definition => .shape (definition.mapSpans change)
  | .draw statement => .draw (statement.mapSpans change)

theorem tokens_mapSpans (change : Span → Span) (tree : ItemTree) :
    (tree.mapSpans change).tokens = tree.tokens.map (Token.mapSpans change) := by
  cases tree with
  | shape definition => exact definition.tokens_mapSpans change
  | draw statement => exact statement.tokens_mapSpans change

theorem expressions_mapSpans (change : Span → Span) (tree : ItemTree) :
    (tree.mapSpans change).expressions =
      tree.expressions.map (ExpressionTree.mapSpans change) := by
  cases tree with
  | shape definition => exact definition.expressions_mapSpans change
  | draw statement => exact statement.expressions_mapSpans change

end ItemTree

/-- Changes the spans of a declaration. -/
def Declaration.mapSpans (change : Span → Span) : Declaration → Declaration
  | .shape definition => .shape (definition.mapSpans change)
  | .draw statement => .draw (statement.mapSpans change)

theorem ItemTree.declaration_mapSpans (relocates : Relocates change) (tree : ItemTree) :
    (tree.mapSpans change).declaration = tree.declaration.mapSpans change := by
  cases tree with
  | shape definition => exact congrArg Declaration.shape (definition.shape_mapSpans relocates)
  | draw statement => exact congrArg Declaration.draw (statement.statement_mapSpans relocates)

theorem Declaration.filterMap_shape?_mapSpans (change : Span → Span) (values : List Declaration) :
    (values.map (mapSpans change)).filterMap shape? =
      (values.filterMap shape?).map (Shape.mapSpans change) := by
  refine filterMap_map_of (fun value => ?_) values
  cases value <;> rfl

theorem Declaration.filterMap_draw?_mapSpans (change : Span → Span) (values : List Declaration) :
    (values.map (mapSpans change)).filterMap draw? =
      (values.filterMap draw?).map (DrawStatement.mapSpans change) := by
  refine filterMap_map_of (fun value => ?_) values
  cases value <;> rfl

namespace SceneTree

/-- Changes the places in a scene. -/
def mapSpans (change : Span → Span) (tree : SceneTree) : SceneTree :=
  ⟨tree.items.map (ItemTree.mapSpans change)⟩

/-- **A changed tree derives the changed tokens.** -/
theorem tokens_mapSpans (change : Span → Span) (tree : SceneTree) :
    (tree.mapSpans change).tokens = tree.tokens.map (Token.mapSpans change) :=
  flatMap_map_of (ItemTree.tokens_mapSpans change) tree.items

theorem expressions_mapSpans (change : Span → Span) (tree : SceneTree) :
    (tree.mapSpans change).expressions =
      tree.expressions.map (ExpressionTree.mapSpans change) :=
  flatMap_map_of (ItemTree.expressions_mapSpans change) tree.items

/-- The integers of a changed tree are as they were. -/
theorem inRange_mapSpans (change : Span → Span) (tree : SceneTree) :
    (∀ part ∈ (tree.mapSpans change).expressions, part.InRange) ↔
      ∀ part ∈ tree.expressions, part.InRange := by
  rw [expressions_mapSpans, List.forall_mem_map]
  exact forall₂_congr fun part _ => part.inRange_mapSpans change

/-- **A changed tree denotes the changed declarations.** -/
theorem declarations_mapSpans (relocates : Relocates change) (tree : SceneTree) :
    (tree.mapSpans change).declarations =
      tree.declarations.map (Declaration.mapSpans change) := by
  rw [declarations, declarations, mapSpans, List.map_map, List.map_map]
  exact List.map_congr_left fun item _ => item.declaration_mapSpans relocates

end SceneTree

end TurtleScene
