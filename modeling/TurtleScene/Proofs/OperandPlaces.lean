/-
**The places of operands.**

The parser comes to an operand behind tokens that begin some sentence of the grammar and break off
where it has an operand. Each production says what can stand in front of the operands in it; the
expressions among these tokens are the ones that are read before.

* `ArgumentTree.Front`, `FormTree.Front`, … — what stands in front of an operand in a part of a
  scene, one relation for each production. `SceneTree.Front` is for a whole scene.
* `SceneTree.stands_expression` — **each expression of a scene stands behind such a front.**
* `ArgumentTree.Front.arrives`, `FormTree.Front.arrives`, … — the reading of a part comes to the
  operand.
* `SceneTree.Front.arrives` — **a source that begins with such a front is read up to the operand.**
-/

import TurtleScene.Proofs.Arrival

namespace TurtleScene

/-! ### What stands in front of an operand -/

/-- What stands in an argument in front of its operand, and the expressions in it. -/
inductive ArgumentTree.Front : List Token → List ExpressionTree → Prop
  | content (opening : Span) : ArgumentTree.Front [⟨.mark .leftParen, opening⟩] []

/-- What stands in a pair in front of one of its operands, and the expressions in it. -/
inductive PairTree.Front : List Token → List ExpressionTree → Prop
  | first (opening : Span) : PairTree.Front [⟨.mark .leftParen, opening⟩] []
  | second (opening : Span) (first : Option ExpressionTree) (comma : Span) :
    PairTree.Front (⟨.mark .leftParen, opening⟩ ::
      (optionalTokens first ++ [⟨.mark .comma, comma⟩])) first.toList

/-- What stands in an instruction in front of one of its operands, and the expressions in it. -/
inductive FormTree.Front : List Token → List ExpressionTree → Prop
  | left {front earlier} (word : Span) : ArgumentTree.Front front earlier →
    FormTree.Front (⟨.keyword .left, word⟩ :: front) earlier
  | right {front earlier} (word : Span) : ArgumentTree.Front front earlier →
    FormTree.Front (⟨.keyword .right, word⟩ :: front) earlier
  | line {front earlier} (word : Span) : ArgumentTree.Front front earlier →
    FormTree.Front (⟨.keyword .line, word⟩ :: front) earlier
  | jump {front earlier} (word : Span) : PairTree.Front front earlier →
    FormTree.Front (⟨.keyword .jump, word⟩ :: front) earlier
  | assign (name : String) (place equals : Span) :
    FormTree.Front [⟨.identifier name, place⟩, ⟨.mark .equals, equals⟩] []
  | call {front earlier} (name : String) (place : Span) : ArgumentTree.Front front earlier →
    FormTree.Front (⟨.identifier name, place⟩ :: front) earlier

/-- What stands in a block in front of an operand, and the expressions in it. -/
inductive BlockTree.Front : List Token → List ExpressionTree → Prop
  | form {front earlier} (opening : Span) (done : List InstructionTree) :
    FormTree.Front front earlier →
    BlockTree.Front (⟨.mark .leftBrace, opening⟩ :: (done.flatMap InstructionTree.tokens ++ front))
      (done.flatMap InstructionTree.expressions ++ earlier)

/-- What stands in a rule in front of an operand, and the expressions in it. -/
inductive RuleTree.Front : List Token → List ExpressionTree → Prop
  | block {front earlier} (word : Span) (name : String) (namePlace opening : Span)
      (parameter : String) (parameterPlace closing : Span) : BlockTree.Front front earlier →
    RuleTree.Front (⟨.keyword .rule, word⟩ :: ⟨.identifier name, namePlace⟩ ::
      ⟨.mark .leftParen, opening⟩ :: ⟨.identifier parameter, parameterPlace⟩ ::
      ⟨.mark .rightParen, closing⟩ :: front) earlier

/-- What stands in a start sequence in front of an operand, and the expressions in it. -/
inductive InitiatorTree.Front : List Token → List ExpressionTree → Prop
  | block {front earlier} (word : Span) : BlockTree.Front front earlier →
    InitiatorTree.Front (⟨.keyword .initiator, word⟩ :: front) earlier

/-- What stands in the definition of a shape in front of an operand, and the expressions in it. The
operand is in a rule behind those that are complete, or in the start sequence. -/
inductive ShapeTree.Front : List Token → List ExpressionTree → Prop
  | body {front earlier} (word : Span) (name : String) (namePlace opening pencilWord : Span)
      (pencil : ColorTree) (semicolon : Span) (done : List RuleTree) :
    RuleTree.Front front earlier ∨ InitiatorTree.Front front earlier →
    ShapeTree.Front (⟨.keyword .shape, word⟩ :: ⟨.identifier name, namePlace⟩ ::
      ⟨.mark .leftBrace, opening⟩ :: ⟨.keyword .pencil, pencilWord⟩ :: pencil.token ::
      ⟨.mark .semicolon, semicolon⟩ :: (done.flatMap RuleTree.tokens ++ front))
      (done.flatMap RuleTree.expressions ++ earlier)

/-- What stands in a draw statement in front of one of its operands, and the expressions in it. -/
inductive DrawTree.Front : List Token → List ExpressionTree → Prop
  | target {front earlier} (word : Span) (name : String) (namePlace position : Span) :
    PairTree.Front front earlier →
    DrawTree.Front (⟨.keyword .draw, word⟩ :: ⟨.identifier name, namePlace⟩ ::
      ⟨.keyword .position, position⟩ :: front) earlier

/-- What stands in a scene in front of an operand, and the expressions in it. The items that are
complete are those of `done`. -/
inductive SceneTree.Front (done : SceneTree) : List Token → List ExpressionTree → Prop
  | item {front earlier} : ShapeTree.Front front earlier ∨ DrawTree.Front front earlier →
    SceneTree.Front done (done.tokens ++ front) (done.expressions ++ earlier)

section Covering

variable {front : List Token} {earlier : List ExpressionTree}

theorem ArgumentTree.Front.covers (isFront : ArgumentTree.Front front earlier) :
    Covers front earlier := by
  cases isFront with
  | content opening => exact Covers.nil.cons (by simp)

theorem PairTree.Front.covers (isFront : PairTree.Front front earlier) : Covers front earlier := by
  cases isFront with
  | first opening => exact Covers.nil.cons (by simp)
  | second opening first comma => exact ((covers_optional first).close (by simp)).cons (by simp)

theorem FormTree.Front.covers (isFront : FormTree.Front front earlier) : Covers front earlier := by
  cases isFront with
  | left word inside | right word inside | line word inside | call name place inside =>
    exact inside.covers.cons (by simp)
  | jump word inside => exact inside.covers.cons (by simp)
  | assign name place equals => exact (Covers.nil.cons (by simp)).cons (by simp)

theorem BlockTree.Front.covers (isFront : BlockTree.Front front earlier) :
    Covers front earlier := by
  cases isFront with
  | form opening done inForm =>
    exact ((Covers.flatMap InstructionTree.covers done).append inForm.covers).cons (by simp)

theorem RuleTree.Front.covers (isFront : RuleTree.Front front earlier) : Covers front earlier := by
  cases isFront with
  | block word name namePlace opening parameter parameterPlace closing inBlock =>
    have block := inBlock.covers
    exact ((((block.cons (by simp)).cons (by simp)).cons (by simp)).cons (by simp)).cons (by simp)

theorem InitiatorTree.Front.covers (isFront : InitiatorTree.Front front earlier) :
    Covers front earlier := by
  cases isFront with
  | block word inBlock => exact inBlock.covers.cons (by simp)

theorem ShapeTree.Front.covers (isFront : ShapeTree.Front front earlier) :
    Covers front earlier := by
  cases isFront with
  | @body inner others word name namePlace opening pencilWord pencil semicolon done inside =>
    have body : Covers (⟨.mark .semicolon, semicolon⟩ :: (done.flatMap RuleTree.tokens ++ inner))
        (done.flatMap RuleTree.expressions ++ others) :=
      ((Covers.flatMap RuleTree.covers done).append
        (inside.elim (·.covers) (·.covers))).cons (by simp)
    have header := body.cons pencil.kind_ne_endOfFile
    exact (((header.cons (by simp)).cons (by simp)).cons (by simp)).cons (by simp)

theorem DrawTree.Front.covers (isFront : DrawTree.Front front earlier) : Covers front earlier := by
  cases isFront with
  | target word name namePlace position inTarget =>
    exact ((inTarget.covers.cons (by simp)).cons (by simp)).cons (by simp)

/-- The tokens in front of an operand hold those of the expressions there. -/
theorem SceneTree.Front.covers {done : SceneTree} (isFront : done.Front front earlier) :
    Covers front earlier := by
  cases isFront with
  | item inItem => exact done.covers.append (inItem.elim (·.covers) (·.covers))

end Covering

/-! ### Expressions have fronts -/

section Standing

variable {Front Outer : List Token → List ExpressionTree → Prop} {tokens : List Token}
  {expressions : List ExpressionTree} {part : ExpressionTree}

/-- An expression stands behind a front: in front of it are the tokens and the expressions of the
front. -/
def Stands (Front : List Token → List ExpressionTree → Prop) (tokens : List Token)
    (expressions : List ExpressionTree) (part : ExpressionTree) : Prop :=
  ∃ front earlier behind later, Front front earlier ∧ tokens = front ++ (part.tokens ++ behind) ∧
    expressions = earlier ++ part :: later

/-- What stands behind a front in a part of a tree stands behind a front in the tree. -/
theorem Stands.within (stands : Stands Front tokens expressions part) (lead : List Token)
    (leading : List ExpressionTree)
    (outer : ∀ front earlier, Front front earlier → Outer (lead ++ front) (leading ++ earlier)) :
    Stands Outer (lead ++ tokens) (leading ++ expressions) part := by
  obtain ⟨front, earlier, behind, later, isFront, rfl, rfl⟩ := stands
  exact ⟨lead ++ front, leading ++ earlier, behind, later, outer front earlier isFront,
    (List.append_assoc ..).symm, (List.append_assoc ..).symm⟩

theorem Stands.append (stands : Stands Front tokens expressions part) (tail : List Token)
    (trailing : List ExpressionTree) :
    Stands Front (tokens ++ tail) (expressions ++ trailing) part := by
  obtain ⟨front, earlier, behind, later, isFront, rfl, rfl⟩ := stands
  exact ⟨front, earlier, behind ++ tail, later ++ trailing, isFront, by simp, by simp⟩

theorem Stands.mono (stands : Stands Front tokens expressions part)
    (wider : ∀ front earlier, Front front earlier → Outer front earlier) :
    Stands Outer tokens expressions part := by
  obtain ⟨front, earlier, behind, later, isFront, same, sameExpressions⟩ := stands
  exact ⟨front, earlier, behind, later, wider front earlier isFront, same, sameExpressions⟩

/-- A part of one of several trees, with the trees in front of that one and those behind it. -/
theorem exists_of_mem_flatMap {Tree : Type} {trees : List Tree} {parts : Tree → List ExpressionTree}
    (member : part ∈ trees.flatMap parts) :
    ∃ done tree more, trees = done ++ tree :: more ∧ part ∈ parts tree := by
  obtain ⟨tree, inTrees, inTree⟩ := List.mem_flatMap.mp member
  obtain ⟨done, more, rfl⟩ := List.append_of_mem inTrees
  exact ⟨done, tree, more, rfl, inTree⟩

end Standing

section Expressions

variable {part : ExpressionTree}

theorem ArgumentTree.stands_expression {tree : ArgumentTree} (member : part ∈ tree.expressions) :
    Stands ArgumentTree.Front tree.tokens tree.expressions part := by
  obtain ⟨opening, content, closing⟩ := tree
  obtain rfl : content = some part := Option.mem_toList.mp member
  exact ⟨_, _, _, [], .content opening, rfl, rfl⟩

theorem PairTree.stands_expression {tree : PairTree} (member : part ∈ tree.expressions) :
    Stands PairTree.Front tree.tokens tree.expressions part := by
  obtain ⟨opening, first, comma, second, closing⟩ := tree
  rcases List.mem_append.mp member with inFirst | inSecond
  · obtain rfl : first = some part := Option.mem_toList.mp inFirst
    refine ⟨_, _, ⟨.mark .comma, comma⟩ :: (optionalTokens second ++
      [⟨.mark .rightParen, closing⟩]), second.toList, .first opening, ?_, rfl⟩
    simp [tokens, optionalTokens]
  · obtain rfl : second = some part := Option.mem_toList.mp inSecond
    refine ⟨_, _, [⟨.mark .rightParen, closing⟩], [], .second opening first comma, ?_, rfl⟩
    simp [tokens, optionalTokens]

theorem FormTree.stands_expression {tree : FormTree} (member : part ∈ tree.expressions) :
    Stands FormTree.Front tree.tokens tree.expressions part := by
  cases tree with
  | left word argument =>
    exact (argument.stands_expression member).within [_] [] fun _ _ => .left word
  | right word argument =>
    exact (argument.stands_expression member).within [_] [] fun _ _ => .right word
  | line word argument =>
    exact (argument.stands_expression member).within [_] [] fun _ _ => .line word
  | push word | pop word => cases member
  | jump word target =>
    exact (target.stands_expression member).within [_] [] fun _ _ => .jump word
  | assign name place equals value =>
    obtain rfl : part = value := List.mem_singleton.mp member
    refine ⟨_, _, [], [], .assign name place equals, ?_, rfl⟩
    simp [tokens, otherTokens, firstToken]
  | call name place argument =>
    exact (argument.stands_expression member).within [_] [] fun _ _ => .call name place

theorem BlockTree.stands_expression {tree : BlockTree} (member : part ∈ tree.expressions) :
    Stands BlockTree.Front tree.tokens tree.expressions part := by
  obtain ⟨opening, body, closing⟩ := tree
  obtain ⟨done, ⟨form, semicolon⟩, more, rfl, inForm⟩ := exists_of_mem_flatMap member
  have stands := ((form.stands_expression inForm).append
    (⟨.mark .semicolon, semicolon⟩ :: (more.flatMap InstructionTree.tokens ++
      [⟨.mark .rightBrace, closing⟩])) (more.flatMap InstructionTree.expressions)).within
        (⟨.mark .leftBrace, opening⟩ :: done.flatMap InstructionTree.tokens)
        (done.flatMap InstructionTree.expressions) fun _ _ => BlockTree.Front.form opening done
  simpa [tokens, expressions, InstructionTree.tokens, InstructionTree.expressions] using stands

theorem RuleTree.stands_expression {tree : RuleTree} (member : part ∈ tree.expressions) :
    Stands RuleTree.Front tree.tokens tree.expressions part :=
  (tree.block.stands_expression member).within [_, _, _, _, _] [] fun _ _ =>
    .block tree.word tree.name tree.namePlace tree.opening tree.parameter tree.parameterPlace
      tree.closing

theorem InitiatorTree.stands_expression {tree : InitiatorTree}
    (member : part ∈ tree.expressions) :
    Stands InitiatorTree.Front tree.tokens tree.expressions part :=
  (tree.block.stands_expression member).within [_] [] fun _ _ => .block tree.word

theorem ShapeTree.stands_expression {tree : ShapeTree} (member : part ∈ tree.expressions) :
    Stands ShapeTree.Front tree.tokens tree.expressions part := by
  obtain ⟨word, name, namePlace, opening, pencilWord, pencil, semicolon, rules, initiator,
    closing⟩ := tree
  rcases List.mem_append.mp member with inRules | inInitiator
  · obtain ⟨done, rule, more, rfl, inRule⟩ := exists_of_mem_flatMap inRules
    have stands := ((rule.stands_expression inRule).append
      (more.flatMap RuleTree.tokens ++ (initiator.tokens ++ [⟨.mark .rightBrace, closing⟩]))
      (more.flatMap RuleTree.expressions ++ initiator.expressions)).within
        (_ :: _ :: _ :: _ :: _ :: _ :: done.flatMap RuleTree.tokens)
        (done.flatMap RuleTree.expressions) fun front earlier inside =>
          ShapeTree.Front.body word name namePlace opening pencilWord pencil semicolon done
            (.inl inside)
    simpa [tokens, expressions] using stands
  · have stands := ((initiator.stands_expression inInitiator).append
      [⟨.mark .rightBrace, closing⟩] []).within
        (_ :: _ :: _ :: _ :: _ :: _ :: rules.flatMap RuleTree.tokens)
        (rules.flatMap RuleTree.expressions) fun front earlier inside =>
          ShapeTree.Front.body word name namePlace opening pencilWord pencil semicolon rules
            (.inr inside)
    simpa [tokens, expressions] using stands

theorem DrawTree.stands_expression {tree : DrawTree} (member : part ∈ tree.expressions) :
    Stands DrawTree.Front tree.tokens tree.expressions part := by
  obtain ⟨word, name, namePlace, position, semicolon⟩ := tree
  cases position with
  | none => cases member
  | some position =>
    have inTarget : part ∈ position.target.expressions := by simpa [expressions] using member
    have stands := ((position.target.stands_expression inTarget).append
      [⟨.mark .semicolon, semicolon⟩] []).within [_, _, _] [] fun _ _ =>
        DrawTree.Front.target word name namePlace position.word
    simpa [tokens, expressions, positionTokens] using stands

/-- **Each expression of a scene stands behind a front**, with the items in front of its own. -/
theorem SceneTree.stands_expression {tree : SceneTree} (member : part ∈ tree.expressions) :
    ∃ done : SceneTree, done.items <+: tree.items ∧
      Stands done.Front tree.tokens tree.expressions part := by
  obtain ⟨items⟩ := tree
  obtain ⟨done, item, more, rfl, inItem⟩ := exists_of_mem_flatMap member
  have stands : Stands (fun front earlier => ShapeTree.Front front earlier ∨
      DrawTree.Front front earlier) item.tokens item.expressions part := by
    cases item with
    | shape definition => exact (definition.stands_expression inItem).mono fun _ _ => .inl
    | draw statement => exact (statement.stands_expression inItem).mono fun _ _ => .inr
  refine ⟨⟨done⟩, List.prefix_append _ _, ?_⟩
  simpa [tokens, expressions] using (stands.append (more.flatMap ItemTree.tokens)
    (more.flatMap ItemTree.expressions)).within (done.flatMap ItemTree.tokens)
      (done.flatMap ItemTree.expressions) fun _ _ => SceneTree.Front.item

end Expressions

/-! ### Readings come to operands -/

section Arrivals

open TurtleScene.Parser

variable {front : List Token} {earlier : List ExpressionTree}

/-- The kinds with which the place of an operand is not empty. -/
def BeginsOperand (kind : TokenKind) : Prop := endsOperand kind = false

theorem ExpressionTree.begins (tree : ExpressionTree) :
    ∃ first others, tree.tokens = first :: others ∧ BeginsOperand first.kind := by
  cases tree <;> exact ⟨_, _, rfl, rfl⟩

/-- An operand that may be left out is not, if its place does not end at once. -/
theorem Parser.arrives_optionalExpression :
    Arrives optionalExpression [] BeginsOperand expression := by
  refine .of_eq (fun cursor after reads begun => ?_) (arrives_self expression)
  cases reads
  have here : current cursor = .ok cursor.current cursor := rfl
  rw [optionalExpression, bind_eq_of_ok here, begun, if_neg Bool.false_ne_true]

theorem ArgumentTree.Front.arrives (isFront : ArgumentTree.Front front earlier) :
    Arrives argument front BeginsOperand expression := by
  cases isFront with
  | content opening => exact .discard (.expect (arrives_optionalExpression.first _))

theorem PairTree.Front.arrives (isFront : PairTree.Front front earlier)
    (readable : ∀ part ∈ earlier, part.Readable) :
    Arrives pair front BeginsOperand expression := by
  cases isFront with
  | first opening => exact .discard (.expect (arrives_optionalExpression.first _))
  | second opening first comma =>
    have readFirst : ∀ cursor mid after, Reads cursor (optionalTokens first) mid →
        Reads mid [⟨.mark .comma, comma⟩] after → BeginsOperand after.current.kind →
          optionalExpression cursor = .ok (optionalOperand comma first) mid := by
      intro cursor mid after reads behind _
      refine optionalExpression_ok_iff.mpr ⟨first, readable, ?_, ?_, reads⟩
      · rw [behind.current_eq]
      · rintro rfl
        cases reads
        rw [behind.current_eq]
        rfl
    exact .discard (.expect (.behind readFirst (.discard
      (.expect (arrives_optionalExpression.first _)))))

theorem FormTree.Front.arrives (isFront : FormTree.Front front earlier)
    (readable : ∀ part ∈ earlier, part.Readable) :
    Arrives instructionForm front BeginsOperand expression := by
  cases isFront with
  | left word inside | right word inside | line word inside =>
    exact .current (.discard (.advance (inside.arrives.first _)))
  | jump word inside => exact .current (.discard (.advance ((inside.arrives readable).first _)))
  | assign name place equals =>
    exact .current (.discard (.advance (.current (.discard (.advance ((arrives_self _).first _))))))
  | call name place inside =>
    obtain ⟨opening⟩ := inside
    exact .current (.discard (.advance (.current
      ((ArgumentTree.Front.content opening).arrives.first _))))

/-- An instruction begins where an instruction may stand. -/
theorem FormTree.Front.begins (isFront : FormTree.Front front earlier) :
    ∃ first others, front = first :: others ∧ continuesBlock first.kind = true := by
  cases isFront <;> exact ⟨_, _, rfl, rfl⟩

theorem BlockTree.Front.arrives (isFront : BlockTree.Front front earlier)
    (readable : ∀ part ∈ earlier, part.Readable) :
    Arrives block front BeginsOperand expression := by
  cases isFront with
  | form opening done inForm =>
    obtain ⟨inDone, inFront⟩ := List.forall_mem_append.mp readable
    obtain ⟨first, others, rfl, begins⟩ := inForm.begins
    have instructions : Arrives (manyWhile continuesBlock (fun _ => instruction) [])
        (done.flatMap InstructionTree.tokens) (continuesBlock · = true) instruction :=
      arrives_manyWhile rfl
        (fun tree => ⟨tree.form.firstToken, _, rfl, continuesBlock_firstToken tree.form⟩)
        (fun _ _ _ _ => instruction_ok_iff) (eachAfter_readable_iff.mpr inDone)
    have inInstruction : Arrives instruction (first :: others) BeginsOperand expression :=
      .current ((inForm.arrives inFront).first _)
    refine .expect (.first (instructions.trans inInstruction fun mid after reads _ => ?_) _)
    rw [reads.current_eq]
    exact begins

theorem RuleTree.Front.arrives (isFront : RuleTree.Front front earlier)
    (readable : ∀ part ∈ earlier, part.Readable) :
    Arrives Parser.rule front BeginsOperand expression := by
  cases isFront with
  | block word name namePlace opening parameter parameterPlace closing inBlock =>
    exact .expect (.identifier (.discard (.expect (.identifier (.discard (.expect
      ((inBlock.arrives readable).first _)))))))

theorem InitiatorTree.Front.arrives (isFront : InitiatorTree.Front front earlier)
    (readable : ∀ part ∈ earlier, part.Readable) :
    Arrives Parser.initiator front BeginsOperand expression := by
  cases isFront with
  | block word inBlock => exact .expect ((inBlock.arrives readable).first _)

/-- Behind rules, the body of a shape comes to an operand of a further rule or of the start
sequence. -/
theorem Parser.arrives_body {α : Type} {done : List RuleTree}
    (inside : RuleTree.Front front earlier ∨ InitiatorTree.Front front earlier)
    (readable : ∀ part ∈ done.flatMap RuleTree.expressions ++ earlier, part.Readable)
    (next : List Rule → Initiator → Parser α) :
    Arrives (manyWhile (· = .keyword .rule) (fun _ => rule) [] >>= fun rules =>
        initiator >>= next rules) (done.flatMap RuleTree.tokens ++ front) BeginsOperand
      expression := by
  obtain ⟨inDone, inFront⟩ := List.forall_mem_append.mp readable
  rcases inside with inRule | inInitiator
  · have rules : Arrives (manyWhile (· = .keyword .rule) (fun _ => rule) [])
        (done.flatMap RuleTree.tokens) (fun kind => decide (kind = .keyword .rule) = true) rule :=
      arrives_manyWhile rfl (fun _ => ⟨_, _, rfl, rfl⟩) (fun _ _ _ _ => rule_ok_iff)
        (eachAfter_readable_iff.mpr inDone)
    refine .first (rules.trans (inRule.arrives inFront) fun mid after reads _ => ?_) _
    obtain ⟨⟩ := inRule
    rw [reads.current_eq]
    rfl
  · have readRules : ∀ cursor mid after, Reads cursor (done.flatMap RuleTree.tokens) mid →
        Reads mid front after → BeginsOperand after.current.kind →
          manyWhile (· = .keyword .rule) (fun _ => rule) [] cursor =
            .ok (done.map RuleTree.rule) mid := by
      intro cursor mid after reads behind _
      refine rules_ok_iff.mpr ⟨?_, done, inDone, rfl, reads⟩
      obtain ⟨⟩ := inInitiator
      rw [behind.current_eq]
      rfl
    exact .behind readRules ((inInitiator.arrives inFront).first _)

theorem ShapeTree.Front.arrives (isFront : ShapeTree.Front front earlier)
    (readable : ∀ part ∈ earlier, part.Readable) :
    Arrives Parser.shape front BeginsOperand expression := by
  cases isFront with
  | @body inner _ word name namePlace opening pencilWord pencil semicolon done inside =>
    have readColor : ∀ cursor mid after, Reads cursor [pencil.token] mid →
        Reads mid (⟨.mark .semicolon, semicolon⟩ :: (done.flatMap RuleTree.tokens ++ inner)) after →
          BeginsOperand after.current.kind →
            color cursor = .ok (pencil.text, pencil.token.span) mid :=
      fun _ _ _ reads _ _ => color_ok_iff.mpr ⟨pencil, rfl, reads_singleton.mp reads⟩
    exact .expect (.identifier (.discard (.expect (.discard (.expect (.behind readColor
      (.discard (.expect (arrives_body inside readable _)))))))))

theorem DrawTree.Front.arrives (isFront : DrawTree.Front front earlier)
    (readable : ∀ part ∈ earlier, part.Readable) :
    Arrives Parser.draw front BeginsOperand expression := by
  cases isFront with
  | target word name namePlace position inTarget =>
    have inPosition : Arrives (Parser.position namePlace) (⟨.keyword .position, position⟩ :: _)
        BeginsOperand expression := .current (.discard (.advance (inTarget.arrives readable)))
    exact .expect (.identifier (inPosition.first _))

theorem Parser.arrives_item {known : List Declaration}
    (inItem : ShapeTree.Front front earlier ∨ DrawTree.Front front earlier)
    (readable : ∀ part ∈ earlier, part.Readable) :
    Arrives (declaration known) front BeginsOperand expression := by
  rcases inItem with inShape | inDraw
  · have arrives := inShape.arrives readable
    obtain ⟨⟩ := inShape
    exact .current (arrives.first _)
  · have arrives := inDraw.arrives readable
    obtain ⟨⟩ := inDraw
    exact .current (arrives.first _)

/-- **A source that begins with a front is read up to the operand**, if the numbers in it can be
read and no shape of it is defined twice. -/
theorem SceneTree.Front.arrives {done : SceneTree} (isFront : done.Front front earlier)
    (readable : ∀ part ∈ earlier, part.Readable)
    (distinct : (done.shapes.map ShapeTree.name).Nodup) :
    Arrives Parser.scene front BeginsOperand expression := by
  cases isFront with
  | item inItem =>
    obtain ⟨inDone, inFront⟩ := List.forall_mem_append.mp readable
    have declarations := arrives_declaration inDone
      (done.shapeNames_declarations.symm ▸ distinct)
    refine declarations.trans (arrives_item inItem inFront) fun mid after reads _ => ?_
    rcases inItem with inShape | inDraw
    · obtain ⟨⟩ := inShape
      rw [reads.current_eq]
      exact nofun
    · obtain ⟨⟩ := inDraw
      rw [reads.current_eq]
      exact nofun

end Arrivals

end TurtleScene
