/-
**What stands in the scene of a source.**

A scene that was read from a source holds no texts but those of the tokens. So the names in it are
identifiers, no other text breaks its line, and each operand is a number, a text, a name or missing.

* `IsName`, `OperandForm.Spelled`, `Shape.Spelled`, `Draw.Spelled` — what a source can write.
* **`Scene.spelled_of_parse`** — the scene of a source holds nothing else.
* `Scene.arguments`, `Scene.coordinates` — the operands of a scene, by the kind of their slots.
-/

import TurtleScene.Proofs.Excerpt

namespace TurtleScene

/-! ### Texts -/

/-- A text that an identifier can be. -/
def IsName (text : String) : Prop := text.toList ∈ Pattern.identifier.language

/-- A name begins with a letter or an underscore, and all of it stands on one line. -/
theorem IsName.exists_cons {text : String} (isName : IsName text) :
    ∃ head tail, text.toList = head :: tail ∧ isWordStart head = true ∧ '\n' ∉ text.toList := by
  obtain ⟨head, tail, starts, parts, form⟩ := Pattern.mem_identifier.mp isName
  refine ⟨head, tail, form, starts, form ▸ fun member => ?_⟩
  rcases List.mem_cons.mp member with rfl | inTail
  · revert starts
    decide
  · exact absurd (parts _ inTail) (by decide)

theorem IsName.oneLine {text : String} (isName : IsName text) : '\n' ∉ text.toList := by
  obtain ⟨_, _, _, _, oneLine⟩ := isName.exists_cons
  exact oneLine

namespace TokenKind.Spelled

theorem isName {name : String} (spelled : (identifier name).Spelled) : IsName name := by
  obtain ⟨pattern, word, member, made⟩ := spelled
  cases pattern <;> cases made
  rwa [IsName, String.toList_ofList]

theorem quotable {text : String} (spelled : (string text).Spelled) :
    ∀ character ∈ text.toList, isQuotable character = true := by
  obtain ⟨pattern, word, member, made⟩ := spelled
  cases pattern <;> cases made
  obtain ⟨inside, quotable, rfl⟩ := Pattern.mem_string.mp member
  simpa using quotable

/-- The text that a colour is, in whatever way it is written, stands on one line. -/
theorem oneLine_color {tree : ColorTree} (spelled : tree.token.kind.Spelled) :
    '\n' ∉ tree.text.toList := by
  cases tree with
  | identifier _ _ => exact spelled.isName.oneLine
  | string _ _ => exact fun member => absurd (spelled.quotable _ member) (by decide)
  | color _ _ =>
    obtain ⟨pattern, word, member, made⟩ := spelled
    cases pattern <;> cases made
    obtain ⟨tail, alphanumeric, rfl⟩ := Pattern.mem_color.mp member
    show '\n' ∉ (String.ofList ('#' :: tail)).toList
    rw [String.toList_ofList]
    intro newline
    rcases List.mem_cons.mp newline with isHash | inTail
    · cases isHash
    · exact absurd (alphanumeric _ inTail) (by decide)

end TokenKind.Spelled

/-! ### Parts of a scene -/

/-- What a source can write for an operand. -/
inductive OperandForm.Spelled : OperandForm → Prop
  | integer (value : Int64) : Spelled (.literal (.integer value))
  | real (value : Binary64) : Spelled (.literal (.real value))
  | text {value : String} : (∀ character ∈ value.toList, isQuotable character = true) →
      Spelled (.literal (.text value))
  | name {value : String} : IsName value → Spelled (.literal (.name value))
  | missing : Spelled .missing

namespace InstructionForm

/-- The name in an instruction, if there is one. -/
def name? : InstructionForm → Option String
  | .call name _ | .assign name _ => some name
  | .left _ | .right _ | .line _ | .push | .pop | .jump _ _ => none

/-- The operands in slots without a title. -/
def arguments : InstructionForm → List Operand
  | .call _ operand | .left operand | .right operand | .line operand | .assign _ operand =>
    [operand]
  | .push | .pop | .jump _ _ => []

/-- The operands in slots with a title. -/
def coordinates : InstructionForm → List Operand
  | .jump x y => [x, y]
  | .call _ _ | .left _ | .right _ | .line _ | .push | .pop | .assign _ _ => []

/-- What a source can write for an instruction. -/
structure Spelled (form : InstructionForm) : Prop where
  name : ∀ name ∈ form.name?, IsName name
  arguments : ∀ operand ∈ form.arguments, operand.form.Spelled
  coordinates : ∀ operand ∈ form.coordinates, operand.form.Spelled

end InstructionForm

/-- What a source can write for a shape. -/
structure Shape.Spelled (shape : Shape) : Prop where
  name : IsName shape.name
  pencil : '\n' ∉ shape.pencil.toList
  rules : ∀ rule ∈ shape.rules, IsName rule.name ∧ IsName rule.parameter
  instructions : ∀ instruction ∈ shape.instructions, instruction.form.Spelled

/-- What a source can write for a draw. -/
structure Draw.Spelled (draw : Draw) : Prop where
  shape : draw.shape.Spelled
  x : draw.x.form.Spelled
  y : draw.y.form.Spelled

/-! ### Parts of a derivation -/

/-- Tokens that are made from words of the patterns. -/
def AllSpelled (tokens : List Token) : Prop := ∀ token ∈ tokens, token.kind.Spelled

theorem AllSpelled.subset {tokens part : List Token} (spelled : AllSpelled tokens)
    (inside : part ⊆ tokens) : AllSpelled part :=
  fun token member => spelled token (inside member)

theorem ExpressionTree.spelled {tree : ExpressionTree} (spelled : AllSpelled tree.tokens) :
    tree.operand.form.Spelled := by
  cases tree with
  | integer _ _ | negativeInteger _ _ _ => exact .integer _
  | decimal _ _ | negativeDecimal _ _ _ => exact .real _
  | string _ _ => exact .text (spelled _ List.mem_cons_self).quotable
  | name _ _ => exact .name (spelled _ List.mem_cons_self).isName

theorem spelled_optional {content : Option ExpressionTree} {next : Span}
    (spelled : AllSpelled (optionalTokens content)) :
    (optionalOperand next content).form.Spelled := by
  cases content with
  | none => exact .missing
  | some tree => exact tree.spelled spelled

theorem ArgumentTree.spelled {tree : ArgumentTree} (spelled : AllSpelled tree.tokens) :
    tree.operand.form.Spelled :=
  spelled_optional (spelled.subset fun _ member => by simp [tokens, member])

theorem PairTree.spelled {tree : PairTree} (spelled : AllSpelled tree.tokens) :
    tree.operands.1.form.Spelled ∧ tree.operands.2.form.Spelled :=
  ⟨spelled_optional (spelled.subset fun _ member => by simp [tokens, member]),
    spelled_optional (spelled.subset fun _ member => by simp [tokens, member])⟩

theorem FormTree.spelled {tree : FormTree} (spelled : AllSpelled tree.tokens) :
    tree.form.Spelled := by
  have others : AllSpelled tree.otherTokens := spelled.subset (List.subset_cons_self _ _)
  have first : tree.firstToken.kind.Spelled := spelled _ List.mem_cons_self
  cases tree with
  | left _ argument | right _ argument | line _ argument =>
    exact ⟨nofun, List.forall_mem_singleton.mpr (argument.spelled others), nofun⟩
  | push _ | pop _ => exact ⟨nofun, nofun, nofun⟩
  | jump _ target =>
    obtain ⟨x, y⟩ := target.spelled others
    exact ⟨nofun, nofun, List.forall_mem_cons.mpr ⟨x, List.forall_mem_singleton.mpr y⟩⟩
  | assign name _ _ value =>
    have operand := value.spelled (others.subset (List.subset_cons_self _ _))
    exact ⟨fun _ same => Option.mem_some.mp same ▸ first.isName,
      List.forall_mem_singleton.mpr operand, nofun⟩
  | call name _ argument =>
    exact ⟨fun _ same => Option.mem_some.mp same ▸ first.isName,
      List.forall_mem_singleton.mpr (argument.spelled others), nofun⟩

theorem ShapeTree.spelled {tree : ShapeTree} (spelled : AllSpelled tree.tokens) :
    tree.shape.Spelled where
  name := (spelled ⟨.identifier tree.name, tree.namePlace⟩ (by simp [tokens])).isName
  pencil := (spelled tree.pencil.token (by simp [tokens])).oneLine_color
  rules := by
    intro _ member
    obtain ⟨rule, inTree, rfl⟩ := List.mem_map.mp member
    have inRule : AllSpelled rule.tokens := spelled.subset fun token inRule => by
      simp only [tokens, List.mem_cons, List.mem_append, List.mem_flatMap]
      exact .inr (.inr (.inr (.inr (.inr (.inr (.inl ⟨rule, inTree, inRule⟩))))))
    exact ⟨(inRule ⟨.identifier rule.name, rule.namePlace⟩ (by simp [RuleTree.tokens])).isName,
      (inRule ⟨.identifier rule.parameter, rule.parameterPlace⟩ (by simp [RuleTree.tokens])).isName⟩
  instructions := by
    rw [tree.instructions_shape]
    refine List.forall_mem_map.mpr fun instruction member => ?_
    exact FormTree.spelled (spelled.subset fun token inForm =>
      (tree.tokens_infix member).subset (List.mem_append_left _ inForm))

theorem DrawTree.spelled {tree : DrawTree} (spelled : AllSpelled tree.tokens) :
    tree.statement.x.form.Spelled ∧ tree.statement.y.form.Spelled := by
  have inPosition : AllSpelled (positionTokens tree.position) :=
    spelled.subset fun _ member => by simp [tokens, member]
  rw [statement]
  cases position : tree.position with
  | none => exact ⟨.missing, .missing⟩
  | some target =>
    rw [position] at inPosition
    exact target.target.spelled (inPosition.subset (List.subset_cons_self _ _))

/-- **The scene of a source holds nothing but what a source can write.** -/
theorem Scene.spelled_of_parse {source : String} {scene : Scene}
    (parsed : Scene.parse source = .ok scene) : ∀ draw ∈ scene.draws, draw.Spelled := by
  obtain ⟨tree, derives, _, _, denotes⟩ := exists_tree_of_parse parsed
  have spelled : AllSpelled tree.tokens := fun token member =>
    derives.spells.spelled _ (List.mem_map_of_mem member)
  intro draw member
  obtain ⟨statement, drawn, definition, defined, _, rfl⟩ :=
    exists_statement_of_mem_draws denotes member
  have inShape := spelled.subset (SceneTree.shape_tokens_infix defined).subset
  have inStatement := spelled.subset (SceneTree.draw_tokens_infix drawn).subset
  exact ⟨definition.spelled inShape, (statement.spelled inStatement).1,
    (statement.spelled inStatement).2⟩

/-! ### Operands -/

namespace Scene

/-- The operands of a scene in slots without a title. -/
def arguments (scene : Scene) : List Operand :=
  scene.draws.flatMap fun draw =>
    draw.shape.instructions.flatMap fun instruction => instruction.form.arguments

/-- The operands of a scene in slots with a title. -/
def coordinates (scene : Scene) : List Operand :=
  scene.draws.flatMap fun draw =>
    draw.shape.instructions.flatMap (fun instruction => instruction.form.coordinates) ++
      [draw.x, draw.y]

variable {source : String} {scene : Scene} {operand : Operand}

theorem spelled_of_mem_arguments (parsed : Scene.parse source = .ok scene)
    (member : operand ∈ scene.arguments) : operand.form.Spelled := by
  obtain ⟨draw, drawn, inDraw⟩ := List.mem_flatMap.mp member
  obtain ⟨instruction, inShape, inInstruction⟩ := List.mem_flatMap.mp inDraw
  have spelled := spelled_of_parse parsed draw drawn
  exact (spelled.shape.instructions instruction inShape).arguments operand inInstruction

theorem spelled_of_mem_coordinates (parsed : Scene.parse source = .ok scene)
    (member : operand ∈ scene.coordinates) : operand.form.Spelled := by
  obtain ⟨draw, drawn, inDraw⟩ := List.mem_flatMap.mp member
  have spelled := spelled_of_parse parsed draw drawn
  rcases List.mem_append.mp inDraw with inShape | ofDraw
  · obtain ⟨instruction, inShape, inInstruction⟩ := List.mem_flatMap.mp inShape
    exact (spelled.shape.instructions instruction inShape).coordinates operand inInstruction
  · rcases List.mem_pair.mp ofDraw with rfl | rfl
    · exact spelled.x
    · exact spelled.y

end Scene

end TurtleScene
