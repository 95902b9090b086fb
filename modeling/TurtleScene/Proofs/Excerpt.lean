/-
**Parts of a source, read on their own.**

The text under the span of a part of a scene is the whole text of the part and no more. So it can be
cut out and read elsewhere, and it denotes the same part there.

* `Scene.parse_pair` — the definition of a shape and a statement that draws it are a source.
* `Host` — a text around the body of a start sequence, in a shape of its own that is drawn once.
* `Host.parse_around` — a host around the text of an instruction has this instruction alone.
* **`Scene.parse_excerpts`** — a draw and the instructions of its shape, each by its span.
-/

import TurtleScene.Proofs.Adjacency
import TurtleScene.Proofs.Location

namespace TurtleScene

open Text

/-! ### Parts without their places -/

/-- The instruction without its places. -/
def Instruction.eraseSpans (instruction : Instruction) : Instruction :=
  instruction.mapSpans fun _ => Span.point 0

/-- The draw without its places. -/
def Draw.eraseSpans (draw : Draw) : Draw := draw.mapSpans fun _ => Span.point 0

/-- All instructions of a shape: those of its rules, and those of its start sequence. -/
def Shape.instructions (shape : Shape) : List Instruction :=
  shape.rules.flatMap Rule.instructions ++ shape.initiator.instructions

theorem ShapeTree.instructions_shape (tree : ShapeTree) :
    tree.shape.instructions = tree.instructions.map InstructionTree.instruction := by
  have ofRule : ∀ rule : RuleTree,
      rule.rule.instructions = rule.block.body.map InstructionTree.instruction := fun _ => rfl
  rw [instructions, List.map_append, ← flatMap_map_of ofRule tree.rules]
  rfl

/-- A scene of one draw, but for the places, has one draw. -/
theorem Scene.exists_draw_of_eraseSpans {scene : Scene} {draw : Draw}
    (same : scene.eraseSpans = (Scene.mk [draw]).eraseSpans) :
    ∃ own : Draw, scene = ⟨[own]⟩ ∧ own.eraseSpans = draw.eraseSpans := by
  obtain ⟨draws⟩ := scene
  obtain ⟨own, rfl, isDraw⟩ := List.map_eq_singleton_iff.mp (congrArg Scene.draws same)
  exact ⟨own, rfl, isDraw⟩

/-! ### Integers in parts -/

theorem SceneTree.shape_expressions_subset {tree : SceneTree} {definition : ShapeTree}
    (member : definition ∈ tree.shapes) : definition.expressions ⊆ tree.expressions :=
  (infix_flatMap (mem_shapes.mp member) ItemTree.expressions).subset

theorem SceneTree.draw_expressions_subset {tree : SceneTree} {statement : DrawTree}
    (member : statement ∈ tree.draws) : statement.expressions ⊆ tree.expressions :=
  (infix_flatMap (mem_draws.mp member) ItemTree.expressions).subset

theorem ShapeTree.expressions_subset {tree : ShapeTree} {instruction : InstructionTree}
    (member : instruction ∈ tree.instructions) : instruction.expressions ⊆ tree.expressions := by
  have inBlock : ∀ {block : BlockTree}, instruction ∈ block.body →
      instruction.expressions ⊆ block.expressions :=
    fun inBody => (infix_flatMap inBody InstructionTree.expressions).subset
  rcases List.mem_append.mp member with inRules | inStart
  · obtain ⟨rule, isRule, inBody⟩ := List.mem_flatMap.mp inRules
    have inRule : instruction.expressions ⊆ rule.expressions := inBlock inBody
    exact List.subset_append_of_subset_left _ fun expression inside =>
      (infix_flatMap isRule RuleTree.expressions).subset (inRule inside)
  · exact List.subset_append_of_subset_right _ (inBlock inStart)

/-! ### A shape and its draw statement -/

/-- **A definition and a statement that draws it** are a source of one draw. -/
theorem Scene.parse_pair {definition : ShapeTree} {statement : DrawTree} {source : String}
    (spells : Spells source (kinds (definition.tokens ++ statement.tokens)))
    (inDefinition : ∀ expression ∈ definition.expressions, expression.InRange)
    (inStatement : ∀ expression ∈ statement.expressions, expression.InRange)
    (isName : definition.name = statement.name) :
    ∃ own : Draw, Scene.parse source = .ok ⟨[own]⟩ ∧
      own.eraseSpans = (statement.draw definition.shape).eraseSpans := by
  have tokens : (SceneTree.mk [.shape definition, .draw statement]).tokens =
      definition.tokens ++ statement.tokens := by
    simp [SceneTree.tokens, ItemTree.tokens]
  have expressions : (SceneTree.mk [.shape definition, .draw statement]).expressions =
      definition.expressions ++ statement.expressions := by
    simp [SceneTree.expressions, ItemTree.expressions]
  have denotes : (SceneTree.mk [.shape definition, .draw statement]).Denotes
      ⟨[statement.draw definition.shape]⟩ :=
    .cons ⟨definition, List.mem_singleton_self _, isName, rfl⟩ .nil
  have inRange := List.forall_mem_append.mpr ⟨inDefinition, inStatement⟩
  rw [← expressions] at inRange
  rw [← tokens] at spells
  obtain ⟨scene, parsed, same⟩ :=
    Scene.parse_of_spells spells inRange (List.nodup_singleton _) denotes
  obtain ⟨own, rfl, isDraw⟩ := Scene.exists_draw_of_eraseSpans same
  exact ⟨own, parsed, isDraw⟩

/-! ### An instruction in another shape -/

/-- **A text around the body of a start sequence**, in a shape of its own that is drawn once. -/
structure Host where
  /-- The name of the shape. -/
  name : String
  /-- The colour of its pencil. -/
  pencil : ColorTree
  /-- The statement that draws it. -/
  statement : DrawTree
  /-- The text up to the brace in front of the body. -/
  opening : String
  /-- Blank space behind that brace. -/
  blanks : String
  /-- The text behind the body. -/
  closing : String
  opens : Spells opening [.keyword .shape, .identifier name, .mark .leftBrace, .keyword .pencil,
    pencil.token.kind, .mark .semicolon, .keyword .initiator, .mark .leftBrace]
  tight : Tight opening
  blank : ∀ character ∈ blanks.toList, isBlank character = true
  closes : Spells closing ([.mark .rightBrace, .mark .rightBrace] ++ kinds statement.tokens)
  drawn : name = statement.name
  inRange : ∀ expression ∈ statement.expressions, expression.InRange

namespace Host

variable (host : Host)

/-- The host with a text as the body of its start sequence. -/
def around (text : String) : String :=
  host.opening ++ (host.blanks ++ (text ++ host.closing))

/-- The definition of the host with an instruction as the body. Its places do not matter. -/
def definition (body : InstructionTree) : ShapeTree :=
  let place := Span.point 0
  ⟨place, host.name, place, place, place, host.pencil, place, [], ⟨place, ⟨place, [body], place⟩⟩,
    place⟩

variable {host} {text : String} {body : InstructionTree}

theorem spells_around (spells : Spells text (kinds body.tokens)) (tight : Tight text) :
    Spells (host.around text) (kinds ((host.definition body).tokens ++ host.statement.tokens)) := by
  have front : Spells host.opening ([.keyword .shape, .identifier host.name, .mark .leftBrace,
      .keyword .pencil, host.pencil.token.kind, .mark .semicolon, .keyword .initiator] ++
        [.mark .leftBrace]) := host.opens
  rw [InstructionTree.tokens, kinds_append] at spells
  have behind := (spells.append_mark tight host.closes).prepend_blanks host.blank
  have whole := front.append_mark host.tight behind
  simpa [around, definition, ShapeTree.tokens, InitiatorTree.tokens, BlockTree.tokens,
    InstructionTree.tokens] using whole

/-- **A host around the text of an instruction** is a source of one draw, whose start sequence is
the instruction alone. -/
theorem parse_around (spells : Spells text (kinds body.tokens)) (tight : Tight text)
    (inRange : ∀ expression ∈ body.expressions, expression.InRange) :
    ∃ own : Draw, Scene.parse (host.around text) = .ok ⟨[own]⟩ ∧
      own.shape.name = host.name ∧ own.shape.rules = [] ∧
        own.shape.initiator.instructions.map Instruction.eraseSpans =
          [body.instruction.eraseSpans] := by
  have expressions : (host.definition body).expressions = body.expressions := by
    simp [definition, ShapeTree.expressions, InitiatorTree.expressions, BlockTree.expressions]
  rw [← expressions] at inRange
  obtain ⟨own, parsed, same⟩ :=
    Scene.parse_pair (spells_around spells tight) inRange host.inRange host.drawn
  have name : own.shape.name = host.name := congrArg (fun draw => draw.shape.name) same
  have rules : own.eraseSpans.shape.rules = [] := congrArg (fun draw => draw.shape.rules) same
  have instructions : own.eraseSpans.shape.initiator.instructions = [body.instruction.eraseSpans] :=
    congrArg (fun draw => draw.shape.initiator.instructions) same
  exact ⟨own, parsed, name, List.map_eq_nil_iff.mp rules, instructions⟩

end Host

/-! ### The parts of a scene -/

/-- **The span of a part selects the whole text of the part.** The text under the span of a drawn
shape, a line break and the text under the span of the draw are a source with this draw alone. The
text under the span of an instruction, in a rule or in the start sequence, can be put into any shape
of its own, as the whole body of the start sequence, and it is this instruction there. Both are the
same but for the places. -/
theorem Scene.parse_excerpts {source : String} {scene : Scene} {draw : Draw}
    (parsed : Scene.parse source = .ok scene) (member : draw ∈ scene.draws) :
    (∃ shapeText drawText own, draw.shape.span.Covers source.toList shapeText ∧
        draw.span.Covers source.toList drawText ∧
        Scene.parse (String.ofList shapeText ++ "\n" ++ String.ofList drawText) = .ok ⟨[own]⟩ ∧
        own.eraseSpans = draw.eraseSpans) ∧
      ∀ instruction ∈ draw.shape.instructions,
        ∃ text, instruction.span.Covers source.toList text ∧ ∀ host : Host,
          ∃ own, Scene.parse (host.around (String.ofList text)) = .ok ⟨[own]⟩ ∧
            own.shape.name = host.name ∧ own.shape.rules = [] ∧
            own.shape.initiator.instructions.map Instruction.eraseSpans =
              [instruction.eraseSpans] := by
  obtain ⟨tree, derives, inRange, _, denotes⟩ := exists_tree_of_parse parsed
  obtain ⟨statement, isDrawn, definition, isDefined, isName, rfl⟩ :=
    exists_statement_of_mem_draws denotes member
  have inTree := SceneTree.shape_tokens_infix isDefined
  have inDefinition : ∀ expression ∈ definition.expressions, expression.InRange :=
    fun expression inside =>
      inRange expression (SceneTree.shape_expressions_subset isDefined inside)
  constructor
  · obtain ⟨shapeText, covers, spells, _⟩ := derives.excerpt definition.encloses inTree
    obtain ⟨drawText, drawCovers, drawSpells, _⟩ :=
      derives.excerpt statement.encloses (SceneTree.draw_tokens_infix isDrawn)
    have both := spells.append drawSpells
    rw [← kinds_append] at both
    obtain ⟨own, ownParsed, same⟩ := Scene.parse_pair both inDefinition
      (fun expression inside =>
        inRange expression (SceneTree.draw_expressions_subset isDrawn inside))
      isName
    exact ⟨shapeText, drawText, own, covers, drawCovers, ownParsed, same⟩
  · intro instruction inShape
    have inTrees : instruction ∈ definition.instructions.map InstructionTree.instruction :=
      definition.instructions_shape ▸ inShape
    obtain ⟨body, isBody, rfl⟩ := List.mem_map.mp inTrees
    obtain ⟨text, covers, spells, tight⟩ :=
      derives.excerpt body.encloses ((ShapeTree.tokens_infix isBody).trans inTree)
    refine ⟨text, covers, fun host => Host.parse_around spells tight ?_⟩
    exact fun expression inside =>
      inDefinition expression (ShapeTree.expressions_subset isBody inside)

/-- A host without rules, drawn without coordinates. -/
def Host.plain : Host where
  name := "f"
  pencil := .identifier "red" (.point 0)
  statement := ⟨.point 0, "f", .point 0, none, .point 0⟩
  opening := "shape f\x7bpencil red;axiom\x7b"
  blanks := " "
  closing := "\x7d\x7ddraw f;"
  opens := by decide +kernel
  tight := by
    refine ⟨[⟨.keyword .shape, ⟨0, 5⟩⟩, ⟨.identifier "f", ⟨6, 7⟩⟩, ⟨.mark .leftBrace, ⟨7, 8⟩⟩,
      ⟨.keyword .pencil, ⟨8, 14⟩⟩, ⟨.identifier "red", ⟨15, 18⟩⟩, ⟨.mark .semicolon, ⟨18, 19⟩⟩,
      ⟨.keyword .initiator, ⟨19, 24⟩⟩], ⟨.mark .leftBrace, ⟨24, 25⟩⟩, ?_, ?_⟩ <;> decide +kernel
  blank := List.all_eq_true.mp (by decide)
  closes := by decide +kernel
  drawn := rfl
  inRange := nofun

/-- Both parts of a scene of one shape, on their own. -/
theorem Scene.parse_excerpts_push :
    let source := "shape a\x7bpencil red;axiom\x7bpush;\x7d\x7ddraw a;"
    let instruction : Instruction := ⟨.push, ⟨25, 30⟩⟩
    let coordinate : Operand := ⟨.missing, ⟨38, 38⟩⟩
    let draw : Draw := ⟨⟨"a", "red", ⟨15, 18⟩, [], ⟨[instruction], ⟨19, 31⟩⟩, ⟨0, 32⟩⟩,
      coordinate, coordinate, ⟨32, 39⟩⟩
    Scene.parse source = .ok ⟨[draw]⟩ ∧
      (∃ own, Scene.parse "shape a\x7bpencil red;axiom\x7bpush;\x7d\x7d\ndraw a;" = .ok ⟨[own]⟩ ∧
        own.eraseSpans = draw.eraseSpans) ∧
      ∃ own, Scene.parse "shape f\x7bpencil red;axiom\x7b push;\x7d\x7ddraw f;" = .ok ⟨[own]⟩ ∧
        own.shape.initiator.instructions.map Instruction.eraseSpans =
          [instruction.eraseSpans] := by
  intro source instruction coordinate draw
  have parsed : Scene.parse source = .ok ⟨[draw]⟩ := by
    simp only [source, draw, coordinate, instruction]
    decide +kernel
  have slices : slice 0 32 source.toList = "shape a\x7bpencil red;axiom\x7bpush;\x7d\x7d".toList ∧
      slice 32 39 source.toList = "draw a;".toList ∧
      slice 25 30 source.toList = "push;".toList := by
    simp only [source]
    decide +kernel
  obtain ⟨⟨shapeText, drawText, own, covers, drawCovers, ownParsed, same⟩, instructions⟩ :=
    Scene.parse_excerpts parsed (List.mem_singleton_self draw)
  obtain ⟨text, pushCovers, hosted⟩ := instructions instruction (List.mem_singleton_self _)
  obtain ⟨hosting, hostParsed, _, _, single⟩ := hosted Host.plain
  obtain rfl := covers.slice_eq.symm.trans slices.1
  obtain rfl := drawCovers.slice_eq.symm.trans slices.2.1
  obtain rfl := pushCovers.slice_eq.symm.trans slices.2.2
  exact ⟨parsed, ⟨own, ownParsed, same⟩, hosting, hostParsed, single⟩

end TurtleScene
