/-
**The places of a scene are nested, and in order.**

A part of a scene goes from its first token to its last one. So the span of a part holds the spans
of its own parts, in the order in which they are written, and no two of them overlap. Only an
operand that is left out has an empty span.

* `OperandsIn` — operands between two offsets. Those of an instruction are in order
  (`FormTree.operandsIn`), and so are coordinates (`operandsIn_position`).
* `Instruction.Arranged`, `Shape.Arranged`, `Draw.Arranged` — the places in a part of a scene. Parts
  are arranged if the tokens of their trees are laid (`InstructionTree.arranged`, …).
* `Scene.spans` — all places in a scene. Each lies in the part that it belongs to
  (`Shape.Arranged.liesIn`, …).
* **`Scene.parse_arranged`** — the places in the scene of a source.
-/

import Mathlib.Data.List.Pairwise
import TurtleScene.Proofs.Arrangement
import TurtleScene.Proofs.Location

namespace TurtleScene

/-! ### Operands -/

/-- The operands of an instruction, in order. -/
def InstructionForm.operands : InstructionForm → List Operand
  | .call _ operand | .left operand | .right operand | .line operand | .assign _ operand =>
    [operand]
  | .push | .pop => []
  | .jump x y => [x, y]

/-- **Only an operand that is left out has an empty span.** -/
structure Operand.Arranged (operand : Operand) : Prop where
  ordered : operand.span.start ≤ operand.span.stop
  empty : operand.span.start = operand.span.stop ↔ operand.form = .missing

/-- Operands in a row stand one behind the other between two offsets, and are arranged. -/
structure OperandsIn (low : Nat) (operands : List Operand) (high : Nat) : Prop where
  placed : Placed low (operands.map Operand.span) high
  arranged : ∀ operand ∈ operands, operand.Arranged

namespace OperandsIn

variable {low middle high : Nat} {operands others : List Operand}

theorem mono {lower higher : Nat} (inside : OperandsIn low operands high) (less : lower ≤ low)
    (more : high ≤ higher) : OperandsIn lower operands higher :=
  ⟨inside.placed.mono less more, inside.arranged⟩

theorem append (front : OperandsIn low operands middle) (behind : OperandsIn middle others high) :
    OperandsIn low (operands ++ others) high := by
  refine ⟨?_, List.forall_mem_append.mpr ⟨front.arranged, behind.arranged⟩⟩
  rw [List.map_append]
  exact placed_append.mpr ⟨middle, front.placed, behind.placed⟩

/-- An operand that is left out has an empty span. -/
theorem missing {offset : Nat} (less : low ≤ offset) (more : offset ≤ high) :
    OperandsIn low [⟨.missing, Span.point offset⟩] high :=
  ⟨⟨less, Nat.le_refl _, more⟩,
    List.forall_mem_singleton.mpr ⟨Nat.le_refl _, iff_of_true rfl rfl⟩⟩

end OperandsIn

theorem ExpressionTree.operandsIn {tree : ExpressionTree} {low high : Nat}
    (laid : Laid low tree.tokens high) : OperandsIn low [tree.operand] high := by
  obtain ⟨starts, nonempty, stops⟩ := tree.fits low high laid
  have written : tree.operand.form ≠ .missing := OperandForm.noConfusion
  exact ⟨⟨starts, nonempty.le, stops⟩,
    List.forall_mem_singleton.mpr ⟨nonempty.le, iff_of_false nonempty.ne written⟩⟩

/-- An operand that may be left out, and the token behind it. -/
theorem operandsIn_optional {content : Option ExpressionTree} {low high : Nat} {symbol : Mark}
    {next : Span} (laid : Laid low (optionalTokens content ++ [⟨.mark symbol, next⟩]) high) :
    OperandsIn low [optionalOperand next content] next.start ∧ next.stop ≤ high ∧
      next.start < next.stop := by
  obtain ⟨middle, inside, stops⟩ := laid_append.mp laid
  simp only [laid_cons, laid_nil] at stops
  refine ⟨?_, stops.2.2, stops.2.1⟩
  cases content with
  | none => exact .missing ((laid_nil.mp inside).trans stops.1) (Nat.le_refl _)
  | some tree => exact (tree.operandsIn inside).mono (Nat.le_refl _) stops.1

theorem ArgumentTree.operandsIn {tree : ArgumentTree} {low high : Nat}
    (laid : Laid low tree.tokens high) : OperandsIn low [tree.operand] high := by
  obtain ⟨starts, nonempty, behind⟩ := laid_cons.mp laid
  obtain ⟨inside, stops, closes⟩ := operandsIn_optional behind
  exact inside.mono (starts.trans nonempty.le) (closes.le.trans stops)

theorem PairTree.operandsIn {tree : PairTree} {low high : Nat} (laid : Laid low tree.tokens high) :
    OperandsIn low [tree.operands.1, tree.operands.2] high := by
  obtain ⟨starts, nonempty, behind⟩ := laid_cons.mp laid
  obtain ⟨middle, first, second⟩ := laid_append.mp behind
  obtain ⟨inFront, comma, between⟩ := operandsIn_optional first
  obtain ⟨inside, stops, closes⟩ := operandsIn_optional second
  have upTo := inFront.mono (starts.trans nonempty.le) (between.le.trans comma)
  exact upTo.append (inside.mono (Nat.le_refl _) (closes.le.trans stops))

theorem FormTree.operandsIn {tree : FormTree} {low high : Nat}
    (laid : Laid low tree.otherTokens high) : OperandsIn low tree.form.operands high := by
  cases tree with
  | left _ argument | right _ argument | line _ argument | call _ _ argument =>
    exact argument.operandsIn laid
  | push _ | pop _ => exact ⟨laid_nil.mp laid, nofun⟩
  | jump _ target => exact target.operandsIn laid
  | assign _ _ equals value =>
    obtain ⟨starts, nonempty, inside⟩ := laid_cons.mp laid
    exact (value.operandsIn inside).mono (starts.trans nonempty.le) (Nat.le_refl _)

/-- The coordinates of a draw statement, behind the name of the shape. -/
theorem operandsIn_position {position : Option PositionTree} {namePlace : Span} {high : Nat}
    (laid : Laid namePlace.stop (positionTokens position) high) :
    OperandsIn namePlace.stop
      [(positionOperands namePlace position).1, (positionOperands namePlace position).2] high := by
  cases position with
  | none =>
    have missing := OperandsIn.missing (Nat.le_refl namePlace.stop) (Nat.le_refl _)
    exact missing.append (.missing (Nat.le_refl _) (laid_nil.mp laid))
  | some position =>
    obtain ⟨starts, nonempty, inside⟩ := laid_cons.mp laid
    exact (position.target.operandsIn inside).mono (starts.trans nonempty.le) (Nat.le_refl _)

/-! ### Parts of a scene -/

/-- **The places in an instruction**: it is not empty and holds its operands in order. -/
structure Instruction.Arranged (instruction : Instruction) : Prop where
  nonempty : instruction.span.start < instruction.span.stop
  holds : instruction.span.Holds (instruction.form.operands.map Operand.span)
  operands : ∀ operand ∈ instruction.form.operands, operand.Arranged

/-- **The places in a rule or a start sequence**: its span holds the instructions in order. -/
structure Span.HoldsBlock (outer : Span) (instructions : List Instruction) : Prop where
  nonempty : outer.start < outer.stop
  holds : outer.Holds (instructions.map Instruction.span)
  instructions : ∀ instruction ∈ instructions, instruction.Arranged

/-- **The places in a shape**: it holds its pencil, its rules and its start sequence in order. -/
structure Shape.Arranged (shape : Shape) : Prop where
  nonempty : shape.span.start < shape.span.stop
  holds : shape.span.Holds
    (shape.pencilSpan :: (shape.rules.map Rule.span ++ [shape.initiator.span]))
  pencil : shape.pencilSpan.start < shape.pencilSpan.stop
  rules : ∀ rule ∈ shape.rules, rule.span.HoldsBlock rule.instructions
  initiator : shape.initiator.span.HoldsBlock shape.initiator.instructions

/-- **The places in a draw**: it holds its coordinates in order. Its shape stands elsewhere. -/
structure Draw.Arranged (draw : Draw) : Prop where
  nonempty : draw.span.start < draw.span.stop
  holds : draw.span.Holds [draw.x.span, draw.y.span]
  coordinates : draw.x.Arranged ∧ draw.y.Arranged
  shape : draw.shape.Arranged

theorem InstructionTree.arranged {tree : InstructionTree} {low high : Nat}
    (laid : Laid low tree.tokens high) : tree.instruction.Arranged := by
  obtain ⟨_, nonempty, behind⟩ := laid_cons.mp laid
  obtain ⟨middle, others, stops⟩ := laid_append.mp behind
  simp only [laid_cons, laid_nil] at stops
  have operands := tree.form.operandsIn others
  refine ⟨(tree.encloses.fits low high laid).2.1, operands.placed.holds.mono ?_, operands.arranged⟩
  exact Span.within_merge nonempty.le (stops.1.trans stops.2.1.le)

theorem BlockTree.arranged {tree : BlockTree} {low high : Nat} (laid : Laid low tree.tokens high) :
    tree.span.HoldsBlock tree.instructions := by
  obtain ⟨_, nonempty, behind⟩ := laid_cons.mp laid
  obtain ⟨middle, body, stops⟩ := laid_append.mp behind
  simp only [laid_cons, laid_nil] at stops
  have placed := Laid.placed (fun instruction => instruction.encloses.fits) body
  refine ⟨(tree.fits low high laid).2.1, ?_, ?_⟩
  · rw [instructions, List.map_map]
    exact placed.holds.mono (Span.within_merge nonempty.le (stops.1.trans stops.2.1.le))
  · intro instruction member
    obtain ⟨tree, inBody, rfl⟩ := List.mem_map.mp member
    obtain ⟨first, last, inside⟩ := body.infix (infix_flatMap inBody InstructionTree.tokens)
    exact tree.arranged inside

/-- The word in front of a block belongs to its span as well. -/
theorem Span.HoldsBlock.merge {outer word : Span} {instructions : List Instruction}
    (block : outer.HoldsBlock instructions) : (word.merge outer).HoldsBlock instructions where
  nonempty := (min_le_right _ _).trans_lt (block.nonempty.trans_le (le_max_right _ _))
  holds := block.holds.mono ⟨min_le_right _ _, le_max_right _ _⟩
  instructions := block.instructions

theorem RuleTree.arranged {tree : RuleTree} {low high : Nat} (laid : Laid low tree.tokens high) :
    tree.rule.span.HoldsBlock tree.rule.instructions := by
  simp only [tokens, laid_cons] at laid
  obtain ⟨_, _, _, _, _, _, _, _, _, _, block⟩ := laid
  exact (tree.block.arranged block).merge

theorem InitiatorTree.arranged {tree : InitiatorTree} {low high : Nat}
    (laid : Laid low tree.tokens high) :
    tree.initiator.span.HoldsBlock tree.initiator.instructions :=
  (tree.block.arranged (laid_cons.mp laid).2.2).merge

theorem ShapeTree.arranged {tree : ShapeTree} {low high : Nat} (laid : Laid low tree.tokens high) :
    tree.shape.Arranged := by
  have fits := tree.encloses.fits low high laid
  simp only [tokens, laid_cons, laid_append, laid_nil] at laid
  obtain ⟨_, word, name, _, opening, _, pencilWord, _, pencil, inked, semicolon, _, middle, rules,
    last, initiator, closing, closed, _⟩ := laid
  have start := tree.initiator.fits _ _ initiator
  have ofRules := Laid.placed RuleTree.fits rules
  have parts : Placed tree.word.stop (tree.pencil.token.span ::
      (tree.rules.map (fun rule => rule.rule.span) ++ [tree.initiator.initiator.span]))
      tree.closing.start := by
    refine ⟨by omega, inked.le, placed_append.mpr ⟨middle, ofRules.mono ?_ (Nat.le_refl _), ?_⟩⟩
    · omega
    · exact ⟨start.1, start.2.1.le, start.2.2.trans closing⟩
  refine ⟨fits.2.1, ?_, inked, ?_, tree.initiator.arranged initiator⟩
  · rw [shape, List.map_map]
    exact parts.holds.mono (Span.within_merge word.le closed.le)
  · intro rule member
    obtain ⟨tree, inRules, rfl⟩ := List.mem_map.mp member
    obtain ⟨_, _, inside⟩ := rules.infix (infix_flatMap inRules RuleTree.tokens)
    exact tree.arranged inside

theorem DrawTree.arranged {tree : DrawTree} {shape : Shape} {low high : Nat}
    (laid : Laid low tree.tokens high) (ofShape : shape.Arranged) :
    (tree.draw shape).Arranged := by
  have fits := tree.encloses.fits low high laid
  simp only [tokens, laid_cons, laid_append, laid_nil] at laid
  obtain ⟨_, word, name, named, middle, position, semicolon, closed, _⟩ := laid
  have coordinates := operandsIn_position position
  obtain ⟨x, others⟩ := List.forall_mem_cons.mp coordinates.arranged
  have y := List.forall_mem_singleton.mp others
  refine ⟨fits.2.1, coordinates.placed.holds.mono (Span.within_merge ?_ ?_), ⟨x, y⟩, ofShape⟩
  · exact word.le.trans (name.trans named.le)
  · exact semicolon.trans closed.le

/-! ### All places of a scene -/

/-- The places in an instruction. -/
def Instruction.spans (instruction : Instruction) : List Span :=
  instruction.span :: instruction.form.operands.map Operand.span

/-- The places in a rule. -/
def Rule.spans (rule : Rule) : List Span := rule.span :: rule.instructions.flatMap Instruction.spans

/-- The places in a start sequence. -/
def Initiator.spans (initiator : Initiator) : List Span :=
  initiator.span :: initiator.instructions.flatMap Instruction.spans

/-- The places in a shape. -/
def Shape.spans (shape : Shape) : List Span :=
  shape.span :: shape.pencilSpan :: (shape.rules.flatMap Rule.spans ++ shape.initiator.spans)

/-- The places in a draw and in its shape. -/
def Draw.spans (draw : Draw) : List Span :=
  draw.span :: draw.x.span :: draw.y.span :: draw.shape.spans

/-- **All places in a scene.** -/
def Scene.spans (scene : Scene) : List Span := scene.draws.flatMap Draw.spans

/-- **The places in the scene of a source.** -/
structure Scene.Arranged (scene : Scene) (length : Nat) : Prop where
  /-- Each span lies in the source. -/
  bounded : ∀ span ∈ scene.spans, span.start ≤ span.stop ∧ span.stop ≤ length
  /-- Draws stand one behind the other. -/
  ordered : (scene.draws.map Draw.span).Pairwise Span.Before
  draws : ∀ draw ∈ scene.draws, draw.Arranged
  /-- Two draws have the same shape, or different ones that do not overlap. -/
  shapes : ∀ draw ∈ scene.draws, ∀ other ∈ scene.draws, draw.shape = other.shape ∨
    draw.shape.name ≠ other.shape.name ∧ draw.shape.span.Apart other.shape.span
  /-- No shape overlaps a draw. -/
  apart : ∀ draw ∈ scene.draws, ∀ other ∈ scene.draws, draw.shape.span.Apart other.span

/-- A span is a range of offsets in another one. -/
def Span.LiesIn (inner outer : Span) : Prop := inner.start ≤ inner.stop ∧ inner.Within outer

theorem Span.LiesIn.of_within {inner middle outer : Span} (lies : inner.LiesIn middle)
    (within : middle.Within outer) : inner.LiesIn outer := ⟨lies.1, lies.2.trans within⟩

theorem Instruction.Arranged.liesIn {instruction : Instruction} (arranged : instruction.Arranged) :
    ∀ span ∈ instruction.spans, span.LiesIn instruction.span := by
  refine List.forall_mem_cons.mpr
    ⟨⟨arranged.nonempty.le, Span.within_refl _⟩, fun span member => ?_⟩
  have inside := arranged.holds.inside span member
  obtain ⟨operand, isOperand, rfl⟩ := List.mem_map.mp member
  exact ⟨(arranged.operands operand isOperand).ordered, inside⟩

theorem Span.HoldsBlock.liesIn {outer : Span} {instructions : List Instruction}
    (block : outer.HoldsBlock instructions) :
    ∀ span ∈ outer :: instructions.flatMap Instruction.spans, span.LiesIn outer := by
  refine List.forall_mem_cons.mpr ⟨⟨block.nonempty.le, within_refl _⟩, fun span member => ?_⟩
  obtain ⟨instruction, inBlock, inside⟩ := List.mem_flatMap.mp member
  exact ((block.instructions instruction inBlock).liesIn span inside).of_within
    (block.holds.inside _ (List.mem_map_of_mem inBlock))

theorem Shape.Arranged.liesIn {shape : Shape} (arranged : shape.Arranged) :
    ∀ span ∈ shape.spans, span.LiesIn shape.span := by
  obtain ⟨pencil, others⟩ := List.forall_mem_cons.mp arranged.holds.inside
  obtain ⟨rules, initiator⟩ := List.forall_mem_append.mp others
  refine List.forall_mem_cons.mpr ⟨⟨arranged.nonempty.le, Span.within_refl _⟩,
    List.forall_mem_cons.mpr ⟨⟨arranged.pencil.le, pencil⟩, List.forall_mem_append.mpr ⟨?_, ?_⟩⟩⟩
  · intro span member
    obtain ⟨rule, inShape, inside⟩ := List.mem_flatMap.mp member
    exact ((arranged.rules rule inShape).liesIn span inside).of_within
      (rules _ (List.mem_map_of_mem inShape))
  · intro span member
    exact (arranged.initiator.liesIn span member).of_within
      (initiator _ (List.mem_singleton_self _))

/-- The places in a draw lie in the draw or in its shape. -/
theorem Draw.Arranged.liesIn {draw : Draw} (arranged : draw.Arranged) :
    ∀ span ∈ draw.spans, span.LiesIn draw.span ∨ span.LiesIn draw.shape.span := by
  obtain ⟨x, others⟩ := List.forall_mem_cons.mp arranged.holds.inside
  have y := List.forall_mem_singleton.mp others
  refine List.forall_mem_cons.mpr ⟨.inl ⟨arranged.nonempty.le, Span.within_refl _⟩,
    List.forall_mem_cons.mpr ⟨.inl ⟨arranged.coordinates.1.ordered, x⟩,
      List.forall_mem_cons.mpr ⟨.inl ⟨arranged.coordinates.2.ordered, y⟩, fun span member => ?_⟩⟩⟩
  exact .inr (arranged.shape.liesIn span member)

/-! ### The scene of a source -/

namespace SceneTree

variable {tree : SceneTree} {source : String}

/-- The items of a source stand one behind the other. -/
theorem Derives.placed (derives : tree.Derives source) :
    Placed 0 (tree.items.map ItemTree.span) source.utf8ByteSize :=
  Laid.placed ItemTree.fits derives.laid

/-- Different items of a source do not overlap. -/
theorem Derives.apart (derives : tree.Derives source) {item other : ItemTree}
    (member : item ∈ tree.items) (otherMember : other ∈ tree.items) (different : item ≠ other) :
    item.span.Apart other.span := by
  have ordered := List.pairwise_map.mp derives.placed.holds.ordered
  have apart : tree.items.Pairwise fun item other => item.span.Apart other.span :=
    ordered.imp .inl
  have symmetric : Std.Symm fun item other : ItemTree => item.span.Apart other.span :=
    ⟨fun _ _ => Span.Apart.symm⟩
  exact apart.forall member otherMember different

/-- The draw statements of a source stand one behind the other. -/
theorem Derives.draws_ordered (derives : tree.Derives source) :
    (tree.draws.map fun statement => statement.statement.span).Pairwise Span.Before := by
  have ordered := List.pairwise_map.mp derives.placed.holds.ordered
  rw [List.pairwise_map, draws, List.pairwise_filterMap]
  refine ordered.imp fun {item other} before statement isDraw next isNext => ?_
  cases item <;> cases isDraw
  cases other <;> cases isNext
  exact before

end SceneTree

/-- The draws of a scene have the places of their statements. -/
theorem SceneTree.Denotes.draw_spans {tree : SceneTree} {scene : Scene}
    (denotes : tree.Denotes scene) :
    scene.draws.map Draw.span = tree.draws.map fun statement => statement.statement.span := by
  have each : List.Forall₂ Eq (tree.draws.map fun statement => statement.statement.span)
      (scene.draws.map Draw.span) := by
    refine List.forall₂_map_left_iff.mpr (List.forall₂_map_right_iff.mpr (denotes.imp ?_))
    rintro statement draw ⟨_, _, _, rfl⟩
    rfl
  rw [List.forall₂_eq_eq_eq] at each
  exact each.symm

/-- **The places in the scene of a source are nested and in order.** Each span is a range of offsets
in the source. A shape holds its pencil, its rules and its start sequence, a rule and a start
sequence hold their instructions, an instruction holds its operands, and a draw holds its
coordinates, all of them one behind the other. Only operands that are left out have empty spans.
Draws stand one behind the other, and the shapes of two draws are the same or stand apart, from each
other and from every draw. -/
theorem Scene.parse_arranged {source : String} {scene : Scene}
    (parsed : Scene.parse source = .ok scene) : scene.Arranged source.utf8ByteSize := by
  obtain ⟨tree, derives, _, distinct, denotes⟩ := exists_tree_of_parse parsed
  have inSource : ∀ item ∈ tree.items, item.span.Within ⟨0, source.utf8ByteSize⟩ :=
    fun item inTree => derives.placed.holds.inside _ (List.mem_map_of_mem inTree)
  -- each draw, by its statement and its definition in the tree
  have parts : ∀ draw ∈ scene.draws, ∃ statement definition,
      ItemTree.draw statement ∈ tree.items ∧ ItemTree.shape definition ∈ tree.items ∧
        draw = statement.draw definition.shape := by
    intro draw member
    obtain ⟨statement, isDrawn, definition, isDefined, _, isDraw⟩ :=
      exists_statement_of_mem_draws denotes member
    exact ⟨statement, definition, SceneTree.mem_draws.mp isDrawn, SceneTree.mem_shapes.mp isDefined,
      isDraw⟩
  have draws : ∀ draw ∈ scene.draws, draw.Arranged := by
    intro draw member
    obtain ⟨statement, definition, isDrawn, isDefined, rfl⟩ := parts draw member
    obtain ⟨_, _, laid⟩ := derives.laid.infix (infix_flatMap isDrawn ItemTree.tokens)
    obtain ⟨_, _, shapeLaid⟩ := derives.laid.infix (infix_flatMap isDefined ItemTree.tokens)
    exact statement.arranged laid (definition.arranged shapeLaid)
  refine ⟨fun span member => ?_, denotes.draw_spans ▸ derives.draws_ordered, draws,
    fun draw member other otherMember => ?_, fun draw member other otherMember => ?_⟩
  · obtain ⟨draw, inScene, inDraw⟩ := List.mem_flatMap.mp member
    obtain ⟨statement, definition, isDrawn, isDefined, rfl⟩ := parts draw inScene
    rcases (draws _ inScene).liesIn span inDraw with lies | lies
    · exact ⟨lies.1, (lies.2.trans (inSource _ isDrawn)).2⟩
    · exact ⟨lies.1, (lies.2.trans (inSource _ isDefined)).2⟩
  · obtain ⟨_, first, _, isFirst, rfl⟩ := parts draw member
    obtain ⟨_, second, _, isSecond, rfl⟩ := parts other otherMember
    by_cases same : first = second
    · exact .inl (congrArg ShapeTree.shape same)
    · have names : first.name ≠ second.name := fun names => same (List.inj_on_of_nodup_map distinct
        (SceneTree.mem_shapes.mpr isFirst) (SceneTree.mem_shapes.mpr isSecond) names)
      exact .inr ⟨names,
        derives.apart isFirst isSecond fun items => same (ItemTree.shape.inj items)⟩
  · obtain ⟨_, definition, _, isDefined, rfl⟩ := parts draw member
    obtain ⟨statement, _, isDrawn, _, rfl⟩ := parts other otherMember
    exact derives.apart isDefined isDrawn ItemTree.noConfusion

/-- The places in a scene of two draws with one shape. -/
theorem Scene.parse_arranged_twice :
    let source := "draw a;shape a\x7bpencil red;axiom\x7bjump(-1,);\x7d\x7ddraw a at(2,);"
    ∃ scene, Scene.parse source = .ok scene ∧ scene.draws.length = 2 ∧
      scene.Arranged source.utf8ByteSize := by
  intro source
  have isScene : ((Scene.parse source).map fun scene => scene.draws.length) = .ok 2 := by
    simp only [source]
    decide +kernel
  cases parsed : Scene.parse source with
  | error error =>
    rw [parsed] at isScene
    cases isScene
  | ok scene =>
    rw [parsed] at isScene
    exact ⟨scene, rfl, Except.ok.inj isScene, Scene.parse_arranged parsed⟩

end TurtleScene
