/-
**Every reported problem can be found in its source.**

A problem is reported with the file that the source was added as, and with a span that cuts no
character of the source. What the span covers is what the message is about: the fault that it
quotes, the name of a shape, a colour, or a whole call. So the lines to show are always found.

* `Finding.Cause` — a finding, by its cause in the tree of the source
  (`Scene.cause_of_mem_check`).
* `Blames` — what stands under a span is what a message is about. It holds of the errors of a source
  (`Scene.Cause.pinpoints`) and of its findings (`Finding.Cause.pinpoints`).
* `onLine_of_le` — the line of an offset is found, and it holds the offset.
* **`checkFile_locates`** — each problem that a run reports.
-/

import TurtleScene.Proofs.Spelling
import TurtleScene.Proofs.Verdict
import TurtleScene.Report.Snippet

namespace TurtleScene

open Text

/-! ### Findings and their causes -/

/-- All calls in a shape. -/
def ShapeDigest.allCalls (shape : ShapeDigest) : List Call :=
  shape.rules.flatMap RuleDigest.calls ++ shape.calls

theorem exists_of_mem_unknownCalls {visible : List String} {calls : List Call} {finding : Finding}
    (member : finding ∈ unknownCalls visible calls) :
    ∃ call ∈ calls, finding = .undefinedRule call.rule call.span := by
  obtain ⟨call, unknown, rfl⟩ := List.mem_map.mp member
  exact ⟨call, List.mem_of_mem_filter unknown, rfl⟩

/-- A finding is about the pencil of some shape, or about one of its calls. -/
theorem exists_of_mem_expectedFindings {palette : Palette} {around : List String}
    {shapes : List ShapeDigest} {finding : Finding}
    (member : finding ∈ expectedFindings palette around shapes) :
    ∃ shape ∈ shapes, finding = .invalidColor shape.pencil shape.pencilSpan ∨
      ∃ call ∈ shape.allCalls, finding = .undefinedRule call.rule call.span := by
  obtain ⟨⟨shape, position⟩, inShapes, found⟩ := List.mem_flatMap.mp member
  refine ⟨shape, List.fst_mem_of_mem_zipIdx inShapes, ?_⟩
  rcases List.mem_append.mp found with ahead | inStart
  · rcases List.mem_append.mp ahead with ofPencil | inRules
    · left
      split at ofPencil
      · cases ofPencil
      · exact List.mem_singleton.mp ofPencil
    · right
      obtain ⟨⟨rule, place⟩, inRule, unknown⟩ := List.mem_flatMap.mp inRules
      obtain ⟨call, inCalls, same⟩ := exists_of_mem_unknownCalls unknown
      have ofShape := List.mem_flatMap_of_mem (List.fst_mem_of_mem_zipIdx inRule) inCalls
      exact ⟨call, List.mem_append_left _ ofShape, same⟩
  · right
    obtain ⟨call, inCalls, same⟩ := exists_of_mem_unknownCalls inStart
    exact ⟨call, List.mem_append_right _ inCalls, same⟩

/-- All instructions in the definition of a shape. -/
def ShapeTree.instructions (tree : ShapeTree) : List InstructionTree :=
  tree.rules.flatMap (fun rule => rule.block.body) ++ tree.initiator.block.body

/-- **A finding, by its cause** in the tree of a source. -/
inductive Finding.Cause (tree : SceneTree) : Finding → Prop
  /-- The colour of a defined shape. -/
  | color {definition : ShapeTree} : definition ∈ tree.shapes →
      Cause tree (.invalidColor definition.pencil.text definition.pencil.token.span)
  /-- A call in a defined shape. -/
  | call {definition : ShapeTree} {name : String} {place semicolon : Span}
      {argument : ArgumentTree} : definition ∈ tree.shapes →
      ⟨.call name place argument, semicolon⟩ ∈ definition.instructions →
      Cause tree (.undefinedRule name (place.merge semicolon))

/-- The calls among the instructions of a block are call statements of the block. -/
theorem BlockTree.exists_of_mem_calls {tree : BlockTree} {call : Call}
    (member : call ∈ tree.instructions.filterMap Instruction.call?) :
    ∃ name place argument semicolon, ⟨.call name place argument, semicolon⟩ ∈ tree.body ∧
      call = ⟨name, place.merge semicolon⟩ := by
  obtain ⟨instruction, inBlock, isCall⟩ := List.mem_filterMap.mp member
  obtain ⟨⟨form, semicolon⟩, inBody, rfl⟩ := List.mem_map.mp inBlock
  cases form <;> cases isCall
  exact ⟨_, _, _, semicolon, inBody, rfl⟩

/-- The calls in a shape are call statements of its definition. -/
theorem ShapeTree.exists_of_mem_allCalls {tree : ShapeTree} {call : Call}
    (member : call ∈ tree.shape.digest.allCalls) :
    ∃ name place argument semicolon, ⟨.call name place argument, semicolon⟩ ∈ tree.instructions ∧
      call = ⟨name, place.merge semicolon⟩ := by
  rcases List.mem_append.mp member with inRules | inStart
  · obtain ⟨digest, isRule, inRule⟩ := List.mem_flatMap.mp inRules
    obtain ⟨_, ofShape, rfl⟩ := List.mem_map.mp isRule
    obtain ⟨rule, ofTree, rfl⟩ := List.mem_map.mp ofShape
    obtain ⟨name, place, argument, semicolon, inBody, same⟩ :=
      BlockTree.exists_of_mem_calls inRule
    have inRules := List.mem_flatMap_of_mem (f := fun rule => rule.block.body) ofTree inBody
    exact ⟨name, place, argument, semicolon, List.mem_append_left _ inRules, same⟩
  · obtain ⟨name, place, argument, semicolon, inBody, same⟩ :=
      BlockTree.exists_of_mem_calls inStart
    exact ⟨name, place, argument, semicolon, List.mem_append_right _ inBody, same⟩

namespace Scene

/-- A source with a scene has a tree that denotes the scene, with what is asked of the tree. -/
theorem exists_tree_of_parse {source : String} {scene : Scene}
    (parsed : Scene.parse source = .ok scene) :
    ∃ tree : SceneTree, tree.Derives source ∧
      (∀ expression ∈ tree.expressions, expression.InRange) ∧
        (tree.shapes.map ShapeTree.name).Nodup ∧ tree.Denotes scene := by
  obtain ⟨_, declared, made⟩ := Scene.parse_ok_iff.mp parsed
  obtain ⟨tree, derives, inRange, distinct, rfl⟩ := Scene.declarations_ok_iff.mp declared
  exact ⟨tree, derives, inRange, distinct, (SceneTree.ofDeclarations_ok_iff distinct).mp made⟩

/-- A draw comes from a draw statement, with the shape that some definition of its name denotes. -/
theorem exists_statement_of_mem_draws {tree : SceneTree} {scene : Scene} {draw : Draw}
    (denotes : tree.Denotes scene) (member : draw ∈ scene.draws) :
    ∃ statement ∈ tree.draws, ∃ definition ∈ tree.shapes, definition.name = statement.name ∧
      draw = statement.draw definition.shape := by
  obtain ⟨index, inside, rfl⟩ := List.getElem_of_mem member
  have length := denotes.length_eq
  exact ⟨_, List.getElem_mem (length.symm ▸ inside), denotes.get (length.symm ▸ inside) inside⟩

/-- **Every finding has a cause** in the tree of the source. -/
theorem cause_of_mem_check {source : String} {scene : Scene} {palette : Palette}
    {surroundings : Option Scope} {finding : Finding} (parsed : Scene.parse source = .ok scene)
    (member : finding ∈ scene.check palette surroundings) :
    ∃ tree : SceneTree, tree.Derives source ∧ finding.Cause tree := by
  obtain ⟨tree, derives, _, _, denotes⟩ := exists_tree_of_parse parsed
  refine ⟨tree, derives, ?_⟩
  have knows := Scope.knows_ruleNames ((surroundings.map Scope.enter).getD Scope.root)
  have found : finding ∈ (checkEach (Draw.check palette) _ scene.draws).1 := member
  rw [(checkDraws_eq palette scene.draws knows).1] at found
  obtain ⟨_, isDigest, about⟩ := exists_of_mem_expectedFindings found
  obtain ⟨draw, isDrawn, rfl⟩ := List.mem_map.mp isDigest
  obtain ⟨_, _, definition, inTree, _, rfl⟩ := exists_statement_of_mem_draws denotes isDrawn
  rcases about with rfl | ⟨call, inShape, rfl⟩
  · exact .color inTree
  · obtain ⟨_, _, _, _, inDefinition, rfl⟩ := definition.exists_of_mem_allCalls inShape
    exact .call inTree inDefinition

end Scene

/-! ### Parts of a derivation -/

theorem BlockTree.tokens_infix {tree : BlockTree} {instruction : InstructionTree}
    (member : instruction ∈ tree.body) : instruction.tokens <:+: tree.tokens := by
  have inBody : instruction.tokens <:+: tree.body.flatMap InstructionTree.tokens :=
    infix_flatMap member _
  exact List.infix_cons (inBody.trans (List.prefix_append _ _).isInfix)

/-- The tokens of an instruction stand together in the definition of the shape that holds it. -/
theorem ShapeTree.tokens_infix {tree : ShapeTree} {instruction : InstructionTree}
    (member : instruction ∈ tree.instructions) : instruction.tokens <:+: tree.tokens := by
  have body : tree.rules.flatMap RuleTree.tokens ++ (tree.initiator.tokens ++
      [⟨.mark .rightBrace, tree.closing⟩]) <:+: tree.tokens :=
    (List.suffix_append [_, _, _, _, _, _] _).isInfix
  refine List.IsInfix.trans ?_ body
  rcases List.mem_append.mp member with inRules | inStart
  · obtain ⟨rule, ofTree, inBody⟩ := List.mem_flatMap.mp inRules
    have inRule : rule.block.tokens <:+: rule.tokens :=
      (List.suffix_append [_, _, _, _, _] _).isInfix
    have ofRules : instruction.tokens <:+: tree.rules.flatMap RuleTree.tokens :=
      ((BlockTree.tokens_infix inBody).trans inRule).trans (infix_flatMap ofTree _)
    exact ofRules.trans (List.prefix_append _ _).isInfix
  · have inInitiator : instruction.tokens <:+: tree.initiator.tokens :=
      List.infix_cons (BlockTree.tokens_infix inStart)
    exact (inInitiator.trans (List.prefix_append _ _).isInfix).trans
      (List.suffix_append _ _).isInfix

theorem SceneTree.mem_shapes {tree : SceneTree} {definition : ShapeTree} :
    definition ∈ tree.shapes ↔ ItemTree.shape definition ∈ tree.items := by
  rw [shapes, List.mem_filterMap]
  constructor
  · rintro ⟨item, inTree, isShape⟩
    cases item <;> cases isShape
    exact inTree
  · exact fun inTree => ⟨_, inTree, rfl⟩

theorem SceneTree.mem_draws {tree : SceneTree} {statement : DrawTree} :
    statement ∈ tree.draws ↔ ItemTree.draw statement ∈ tree.items := by
  rw [draws, List.mem_filterMap]
  constructor
  · rintro ⟨item, inTree, isDraw⟩
    cases item <;> cases isDraw
    exact inTree
  · exact fun inTree => ⟨_, inTree, rfl⟩

/-- The tokens of a definition stand together in the scene. -/
theorem SceneTree.shape_tokens_infix {tree : SceneTree} {definition : ShapeTree}
    (member : definition ∈ tree.shapes) : definition.tokens <:+: tree.tokens :=
  infix_flatMap (mem_shapes.mp member) ItemTree.tokens

/-- The tokens of a draw statement stand together in the scene. -/
theorem SceneTree.draw_tokens_infix {tree : SceneTree} {statement : DrawTree}
    (member : statement ∈ tree.draws) : statement.tokens <:+: tree.tokens :=
  infix_flatMap (mem_draws.mp member) ItemTree.tokens

/-! ### What a message is about -/

/-- **A text is a whole call statement**: the name of a rule, at most one operand between
parentheses, and the semicolon. -/
def IsCall (rule text : String) : Prop :=
  ∃ (tokens : List Token) (operand : Option ExpressionTree),
    (TokenStream.ofSource text).tokens = .ok tokens ∧
      tokens.map Token.kind = [.identifier rule, .mark .leftParen] ++
        (optionalTokens operand).map Token.kind ++
          [.mark .rightParen, .mark .semicolon, .endOfFile]

/-- **What stands under the span of a problem is what its message is about.** -/
structure Blames (stage : Stage) (message covered : String) : Prop where
  /-- A fault of the text is quoted. -/
  fault : stage = .lexing → message = "unexpected character '" ++ covered ++ "'"
  /-- A shape that is defined nowhere stands there by its name. -/
  shape : ∀ name, message = "unknown shape '" ++ name ++ "'" → covered = name
  /-- A colour stands there, with quotes or without them. -/
  color : ∀ color, message = "Invalid color '" ++ color ++ "'" →
    covered = color ∨ covered = "\"" ++ color ++ "\""
  /-- A rule that is not in scope is called there. -/
  call : ∀ rule, message = "Don't exist's rule '" ++ rule ++ "'" → IsCall rule covered

/-- A span is the place of a stretch of a source that a message is about. -/
def Pinpoints (source : String) (stage : Stage) (message : String) (span : Span) : Prop :=
  ∃ covered, span.Covers source.toList covered ∧ Blames stage message (String.ofList covered)

/-! ### Telling messages apart -/

/-- Texts that open differently are different. -/
theorem ne_of_openings {first second rest other : String}
    (differ : ¬ (first.toList <+: second.toList ∨ second.toList <+: first.toList)) :
    first ++ rest ≠ second ++ other := by
  intro same
  have texts := congrArg String.toList same
  rw [String.toList_append, String.toList_append] at texts
  exact differ (List.prefix_or_prefix_of_prefix ⟨_, texts⟩ (List.prefix_append _ _))

theorem ne_of_quotes {first second text other : String}
    (differ : ¬ (first.toList <+: second.toList ∨ second.toList <+: first.toList)) :
    first ++ text ++ "'" ≠ second ++ other ++ "'" := by
  rw [String.append_assoc, String.append_assoc]
  exact ne_of_openings differ

namespace ParseError

/-- The words with which the message of an error opens. -/
def opening : ParseError → String
  | .lexical _ => "unexpected character '"
  | .unexpected _ _ => "expected "
  | .integerOutOfRange _ _ => "integer literal '"
  | .malformedDecimal _ _ => "invalid float literal '"
  | .duplicateShape _ _ => "shape '"
  | .unknownShape _ _ => "unknown shape '"

theorem exists_message_eq (error : ParseError) :
    ∃ rest, error.message = error.opening ++ rest := by
  cases error with
  | lexical _ | integerOutOfRange _ _ | malformedDecimal _ _ | duplicateShape _ _
  | unknownShape _ _ => exact ⟨_, String.append_assoc⟩
  | unexpected _ _ =>
    exact ⟨_, (congrArg (· ++ _) String.append_assoc).trans String.append_assoc⟩

theorem message_ne {error : ParseError} {opening text : String}
    (differ : ¬ (error.opening.toList <+: opening.toList ∨
      opening.toList <+: error.opening.toList)) : error.message ≠ opening ++ text ++ "'" := by
  obtain ⟨rest, isMessage⟩ := error.exists_message_eq
  rw [isMessage, String.append_assoc]
  exact ne_of_openings differ

theorem message_ne_invalidColor (error : ParseError) (color : String) :
    error.message ≠ "Invalid color '" ++ color ++ "'" := by
  refine error.message_ne ?_
  cases error <;> dsimp only [opening] <;> decide

theorem message_ne_undefinedRule (error : ParseError) (rule : String) :
    error.message ≠ "Don't exist's rule '" ++ rule ++ "'" := by
  refine error.message_ne ?_
  cases error <;> dsimp only [opening] <;> decide

theorem eq_unknownShape_of_message {error : ParseError} {name : String}
    (same : error.message = "unknown shape '" ++ name ++ "'") :
    ∃ span, error = .unknownShape name span := by
  cases error with
  | unknownShape other span => exact ⟨span, by rw [eq_of_enclosed same]⟩
  | lexical _ | unexpected _ _ | integerOutOfRange _ _ | malformedDecimal _ _
  | duplicateShape _ _ =>
    refine (message_ne ?_ same).elim
    dsimp only [opening]
    decide

end ParseError

/-- What the message of an error is about, if it is about a fault or a name. -/
theorem ParseError.blames {error : ParseError} {covered : String}
    (quoted : ∀ fault, error = .lexical fault → covered = fault.text)
    (named : ∀ name span, error = .unknownShape name span → covered = name) :
    Blames error.stage error.message covered where
  fault := by
    intro isLexical
    cases error with
    | lexical fault =>
      rw [quoted fault rfl]
      rfl
    | unexpected _ _ | integerOutOfRange _ _ | malformedDecimal _ _ | duplicateShape _ _
    | unknownShape _ _ => cases isLexical
  shape := by
    intro name same
    obtain ⟨span, isUnknown⟩ := eq_unknownShape_of_message same
    exact named name span isUnknown
  color color same := (error.message_ne_invalidColor color same).elim
  call rule same := (error.message_ne_undefinedRule rule same).elim

theorem blames_invalidColor {color covered : String} (span : Span)
    (written : covered = color ∨ covered = "\"" ++ color ++ "\"") :
    Blames .checking (Finding.invalidColor color span).message covered where
  fault := nofun
  shape name same := (ne_of_quotes (by decide) same).elim
  color other same := eq_of_enclosed same ▸ written
  call rule same := (ne_of_quotes (by decide) same).elim

theorem blames_undefinedRule {rule covered : String} (span : Span) (called : IsCall rule covered) :
    Blames .checking (Finding.undefinedRule rule span).message covered where
  fault := nofun
  shape name same := (ne_of_quotes (by decide) same).elim
  color color same := (ne_of_quotes (by decide) same).elim
  call other same := eq_of_enclosed same ▸ called

/-! ### Errors and their places -/

/-- A fault of a source is quoted by its message. -/
theorem pinpoints_of_fault {source : String} {fault : LexicalError}
    (member : Item.fault fault ∈ (TokenStream.ofSource source).all) :
    Pinpoints source .lexing fault.message fault.span := by
  refine ⟨_, TokenStream.covers_of_mem_all member, ?_⟩
  rw [String.ofList_toList]
  have quoted : ∀ other, ParseError.lexical fault = .lexical other → fault.text = other.text := by
    intro other same
    cases same
    rfl
  exact ParseError.blames quoted nofun

/-- The tokens of the tree of a source are items of the source. -/
theorem SceneTree.Derives.mem_all {tree : SceneTree} {source : String} {token : Token}
    (derives : tree.Derives source) (member : token ∈ tree.tokens) :
    Item.token token ∈ (TokenStream.ofSource source).all := by
  have items := TokenStream.tokens_ok_iff.mp derives
  refine TokenStream.mem_all.mpr (.inl ?_)
  rw [items]
  exact List.mem_map_of_mem member

/-- **The errors of a source have their places in it.** -/
theorem Scene.Cause.pinpoints {source : String} {error : ParseError}
    (cause : Scene.Cause source error) :
    Pinpoints source error.stage error.message error.span := by
  cases cause with
  | fault same =>
    refine pinpoints_of_fault (TokenStream.mem_all.mpr (.inl ?_))
    rw [same]
    exact List.mem_append_right _ List.mem_cons_self
  | @offence front found behind expected whole refuses =>
    have member : Item.token found ∈ (TokenStream.ofSource source).all := by
      rw [whole]
      exact List.mem_append_right _ List.mem_cons_self
    exact ⟨_, TokenStream.covers_of_mem_all member, ParseError.blames nofun nofun⟩
  | @meaning read error inSource misjudged =>
    have joined : ∀ {first last : Token}, first ∈ read → last ∈ read →
        ∃ covered, (first.span.merge last.span).Covers source.toList covered := by
      intro first last isFirst isLast
      exact (TokenStream.covers_of_mem_all (inSource first isFirst)).merge
        (TokenStream.covers_of_mem_all (inSource last isLast))
    cases misjudged with
    | integer _ isFirst isLast | decimal _ isFirst isLast | duplicate _ isFirst isLast =>
      obtain ⟨covered, covers⟩ := joined isFirst isLast
      exact ⟨covered, covers, ParseError.blames nofun nofun⟩
  | @unknown tree statement derives inTree =>
    have inStatement : (⟨.identifier statement.name, statement.namePlace⟩ : Token) ∈
        statement.tokens := List.mem_cons_of_mem _ List.mem_cons_self
    have member := derives.mem_all ((SceneTree.draw_tokens_infix inTree).subset inStatement)
    refine ⟨_, TokenStream.covers_of_mem_all member, ParseError.blames nofun ?_⟩
    intro name span same
    cases same
    exact String.ofList_toList

/-! ### Findings and their places -/

/-- **A call in a source is a whole call statement**, from its name to its semicolon. -/
theorem exists_isCall {tree : SceneTree} {source : String} {name : String}
    {place semicolon : Span} {argument : ArgumentTree} (derives : tree.Derives source)
    (inTree : InstructionTree.tokens ⟨.call name place argument, semicolon⟩ <:+: tree.tokens) :
    ∃ covered, (place.merge semicolon).Covers source.toList covered ∧
      IsCall name (String.ofList covered) := by
  obtain ⟨covered, covers, ⟨own, lexes, isKinds⟩, _⟩ :=
    derives.excerpt (InstructionTree.encloses ⟨.call name place argument, semicolon⟩) inTree
  refine ⟨covered, covers, own, argument.content, lexes, isKinds.trans ?_⟩
  simp [kinds, InstructionTree.tokens, FormTree.tokens, FormTree.firstToken, FormTree.otherTokens,
    ArgumentTree.tokens]

/-- **The findings of a source have their places in it.** -/
theorem Finding.Cause.pinpoints {tree : SceneTree} {source : String} {finding : Finding}
    (derives : tree.Derives source) (cause : finding.Cause tree) :
    Pinpoints source .checking finding.message finding.span := by
  cases cause with
  | @color definition inTree =>
    have inDefinition : definition.pencil.token ∈ definition.tokens := by
      simp [ShapeTree.tokens]
    have member := derives.mem_all ((SceneTree.shape_tokens_infix inTree).subset inDefinition)
    refine ⟨_, TokenStream.covers_of_mem_all member, blames_invalidColor _ ?_⟩
    rw [String.ofList_toList]
    cases definition.pencil with
    | identifier text place | color text place => exact .inl rfl
    | string text place => exact .inr rfl
  | call inTree inDefinition =>
    obtain ⟨covered, covers, called⟩ := exists_isCall derives
      ((ShapeTree.tokens_infix inDefinition).trans (SceneTree.shape_tokens_infix inTree))
    exact ⟨covered, covers, blames_undefinedRule _ called⟩

/-! ### Lines to show -/

/-- The line of an offset is found, and the offset lies on it. -/
def OnLine (text : List Char) (offset : Nat) : Prop :=
  ∃ line, (placedLines text)[lineIndex (placedLines text) offset]? = some line ∧
    line.start ≤ offset ∧ offset ≤ line.start + byteLength line.content

theorem start_le_of_mem_placeLines {start : Nat} {lines : List (List Char)} {line : TextLine}
    (member : line ∈ placeLines start lines) : start ≤ line.start := by
  induction lines generalizing start with
  | nil => cases member
  | cons content others ih =>
    rcases List.mem_cons.mp member with rfl | behind
    · exact Nat.le_refl _
    · exact Nat.le_trans (Nat.le_add_right _ _) (ih behind)

theorem countP_start_cons {first : TextLine} {others : List TextLine} {offset : Nat}
    (starts : first.start ≤ offset) :
    ((first :: others).countP fun line => line.start ≤ offset) =
      (others.countP fun line => line.start ≤ offset) + 1 :=
  List.countP_cons_of_pos (decide_eq_true starts)

theorem lineIndex_cons {first : TextLine} {others : List TextLine} {offset : Nat}
    (starts : first.start ≤ offset) :
    lineIndex (first :: others) offset = others.countP fun line => line.start ≤ offset := by
  rw [lineIndex, countP_start_cons starts, Nat.add_sub_cancel]

/-- An offset within lines that stand one behind the other lies on the line that is found for it. -/
theorem exists_line_of_placeLines {lines : List (List Char)} {start offset : Nat}
    (nonempty : lines ≠ []) (behind : start ≤ offset)
    (inside : offset ≤ start + byteLength lines.flatten) :
    ∃ line, (placeLines start lines)[lineIndex (placeLines start lines) offset]? = some line ∧
      line.start ≤ offset ∧ offset ≤ line.start + byteLength line.content := by
  induction lines generalizing start with
  | nil => exact (nonempty rfl).elim
  | cons content others ih =>
    rw [List.flatten_cons, byteLength_append] at inside
    rw [placeLines, lineIndex_cons behind]
    by_cases further : start + byteLength content ≤ offset ∧ others ≠ []
    · -- the offset lies on a later line, whose index counts one line less there
      obtain ⟨later, more⟩ := further
      obtain ⟨line, isLine, holds⟩ := ih more later (by omega)
      refine ⟨line, ?_, holds⟩
      obtain ⟨second, rest, rfl⟩ := List.exists_cons_of_ne_nil more
      have starts : (TextLine.mk (start + byteLength content) second).start ≤ offset := later
      rw [placeLines, lineIndex_cons starts] at isLine
      rw [placeLines, countP_start_cons starts, List.getElem?_cons_succ]
      exact isLine
    · have none : ((placeLines (start + byteLength content) others).countP
          fun line => line.start ≤ offset) = 0 := by
        rw [List.countP_eq_zero]
        intro line member reached
        have := start_le_of_mem_placeLines member
        have := of_decide_eq_true reached
        refine further ⟨by omega, ?_⟩
        rintro rfl
        cases member
      refine ⟨⟨start, content⟩, by rw [none]; rfl, behind, ?_⟩
      by_cases last : others = []
      · rw [last] at inside
        exact inside
      · have : ¬ start + byteLength content ≤ offset := fun later => further ⟨later, last⟩
        exact Nat.le_of_not_le this

/-- **Each offset of a text lies on the line that is found for it.** -/
theorem onLine_of_le {text : List Char} {offset : Nat} (inside : offset ≤ byteLength text) :
    OnLine text offset := by
  refine exists_line_of_placeLines (splitLines_ne_nil text) (Nat.zero_le _) ?_
  rw [splitLines_flatten, Nat.zero_add]
  exact inside

/-- A label with both ends on lines of a file is shown. -/
theorem Label.render_ne_nil {file : SourceFile} {label : Label}
    (first : OnLine file.text.toList label.span.start)
    (last : OnLine file.text.toList label.span.stop) : label.render file ≠ [] := by
  obtain ⟨firstLine, isFirst, _⟩ := first
  obtain ⟨lastLine, isLast, _⟩ := last
  unfold Label.render
  dsimp only
  rw [isFirst, isLast]
  exact List.cons_ne_nil _ _

/-! ### Reported problems -/

/-- A run that ends with an error ends with one of the source. -/
theorem checkSource_error_pinpoints {settings : Settings} {file : Nat} {source : SourceFile}
    {error : ParseError} (ended : (checkSource settings file source).outcome = .error error) :
    Pinpoints source.text error.stage error.message error.span := by
  have parsed : Scene.checked settings.palette source.text = .error error →
      Pinpoints source.text error.stage error.message error.span := by
    intro failed
    exact (Scene.cause_of_parse_error (Scene.checked_error_iff.mp failed)).pinpoints
  cases readable : (TokenStream.ofSource source.text).tokens with
  | ok tokens => exact parsed (checkSource_outcome_of_tokens readable ▸ ended)
  | error fault =>
    cases dumps : settings.dumpTokens with
    | false => exact parsed (checkSource_outcome_of_quiet dumps ▸ ended)
    | true =>
      rw [checkSource_outcome_of_fault dumps readable] at ended
      cases ended
      obtain ⟨item, member, isFault⟩ := exists_error_of_mapM readable
      cases item <;> cases isFault
      exact pinpoints_of_fault member

/-- **What a run reports has its place in the source.** -/
theorem checkSource_pinpoints {settings : Settings} {file number : Nat} {source : SourceFile}
    {problem : Problem}
    (reported : (number, problem) ∈ (checkSource settings file source).reports) :
    number = file ∧ ∃ stage message span, problem = .found stage message span ∧
      Pinpoints source.text stage message span := by
  rw [checkSource_reports] at reported
  obtain ⟨told, isProblem, same⟩ := List.mem_map.mp reported
  cases same
  refine ⟨rfl, ?_⟩
  cases ended : (checkSource settings file source).outcome with
  | error error =>
    rw [ended] at isProblem
    rw [List.mem_singleton.mp isProblem]
    exact ⟨_, _, _, rfl, checkSource_error_pinpoints ended⟩
  | ok checked =>
    rw [ended] at isProblem
    obtain ⟨finding, member, rfl⟩ := List.mem_map.mp isProblem
    obtain ⟨parsed, isCheck⟩ := Scene.checked_ok_iff.mp (checkSource_ok_iff.mp ended)
    rw [isCheck] at member
    obtain ⟨tree, derives, cause⟩ := Scene.cause_of_mem_check parsed member
    exact ⟨_, _, _, rfl, cause.pinpoints derives⟩

/-- **Every reported problem can be found in its source.** It is reported in the file that the
source was added as. Its span lies in the source and cuts no character, and what stands under the
span is what the message is about. The lines of both ends are found, so the diagnostic is shown with
the lines of the source below its heading. -/
theorem checkFile_locates {reporter : Reporter} {settings : Settings} {source : SourceFile}
    {file : Nat} {problem : Problem}
    (reported : (file, problem) ∈ (reporter.checkFile settings source).1.reports) :
    let after := (reporter.checkFile settings source).2
    let text := source.text
    (file = reporter.nextFile ∧ after.files[file]? = some source) ∧
      ∃ stage message span covered, problem = .found stage message span ∧
        (span.start ≤ span.stop ∧ span.stop ≤ text.utf8ByteSize ∧
          String.Pos.Raw.IsValid text ⟨span.start⟩ ∧ String.Pos.Raw.IsValid text ⟨span.stop⟩) ∧
        (span.Covers text.toList covered ∧ slice span.start span.stop text.toList = covered ∧
          Blames stage message (String.ofList covered)) ∧
        (OnLine text.toList span.start ∧ OnLine text.toList span.stop) ∧
        (Label.mk file span message).render source ≠ [] ∧
          after.render (problem.toDiagnostic file) =
            ("error: " ++ stage.heading) ::
              ((Label.mk file span message).render source ++ [""]) := by
  intro after text
  obtain ⟨rfl, stage, message, span, rfl, covered, covers, blames⟩ :=
    checkSource_pinpoints reported
  have added : after.files[reporter.nextFile]? = some source := List.getElem?_concat_length
  have within := covers.le
  have starts : OnLine text.toList span.start := onLine_of_le (within.1.trans within.2)
  have stops : OnLine text.toList span.stop := onLine_of_le within.2
  have shown : (Label.mk reporter.nextFile span message).render source ≠ [] :=
    Label.render_ne_nil starts stops
  refine ⟨⟨rfl, added⟩, stage, message, span, covered, rfl, ⟨within.1, ?_, ?_, ?_⟩,
    ⟨covers, covers.slice_eq, blames⟩, ⟨starts, stops⟩, shown, ?_⟩
  · rw [← byteLength_toList]
    exact within.2
  · exact covers.boundaries.1.isValid
  · exact covers.boundaries.2.isValid
  · unfold Reporter.render
    dsimp only [Problem.toDiagnostic, Problem.span?, Option.map_some]
    rw [added]
    rfl

/-- Behind a comment with a character of two bytes, a call is found by its bytes. -/
theorem checkFile_locates_call :
    let source : SourceFile :=
      ⟨"a.shape", "// \u00e9\nshape a\x7bpencil \"red\";axiom\x7br(1);\x7d\x7ddraw a;"⟩
    let checked := (Reporter.mk [⟨"b.shape", ""⟩] 0).checkFile ⟨true, true, true, .standard⟩ source
    let span : Span := ⟨33, 38⟩
    let problem : Problem := .found .checking "Don't exist's rule 'r'" span
    (1, problem) ∈ checked.1.reports ∧
      checked.2.files[1]? = some source ∧
      ∃ covered, span.Covers source.text.toList covered ∧ IsCall "r" (String.ofList covered) := by
  intro source checked span problem
  have reported : (1, problem) ∈ checked.1.reports := by
    simp only [checked, source, span, problem]
    decide +kernel
  refine ⟨reported, ?_⟩
  obtain ⟨⟨_, added⟩, _, _, _, covered, same, _, ⟨covers, _, blames⟩, _⟩ :=
    checkFile_locates reported
  simp only [problem] at same
  cases same
  exact ⟨added, covered, covers, blames.call "r" rfl⟩

end TurtleScene
