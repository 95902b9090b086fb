/-
**How the parser is put together.**

The whole parser is put together from few steps: it takes a token, looks at the current one, throws
an error about what it has seen, and repeats a part as long as the current token begins one. What
holds for these steps and is kept where they are joined holds for every part of the parser.

* `RefusesEnd` — a parser refuses the end of the source where it has to begin there.
* `Built` — a parser that is put together from steps. The parsers that are built over the end of the
  source either refuse that end or do not look at it.
* `built_expression`, `built_instruction`, `built_shape`, … — one lemma for each production.
* **`Parser.built_declaration`** — a declaration, whatever came before it.
-/

import TurtleScene.Proofs.Steps

namespace TurtleScene

namespace Parser

variable {α β : Type}

/-! ### The end of the source -/

/-- **A parser refuses the end of the source**, which is current and has nothing behind it. -/
def RefusesEnd (reader : Parser α) : Prop :=
  ∀ place length, ∃ expected span last, reader ⟨⟨.endOfFile, place⟩, ⟨[], length⟩⟩ =
    .error (.unexpected expected ⟨.endOfFile, span⟩) last

theorem RefusesEnd.bind {reader : Parser α} (refuses : RefusesEnd reader) (next : α → Parser β) :
    RefusesEnd (reader >>= next) := by
  intro place length
  obtain ⟨expected, span, last, failed⟩ := refuses place length
  refine ⟨expected, span, last, ?_⟩
  show EStateM.bind reader next _ = _
  unfold EStateM.bind
  rw [failed]

theorem refusesEnd_expect {kind : TokenKind} (inside : kind ≠ .endOfFile) :
    RefusesEnd (expect kind) := by
  intro place length
  refine ⟨.exactly kind, place, ⟨⟨.endOfFile, place⟩, ⟨[], length⟩⟩, ?_⟩
  show (if TokenKind.endOfFile = kind then advance else refuse _) _ = _
  rw [if_neg (Ne.symm inside)]
  rfl

theorem refusesEnd_keyword (word : Keyword) : RefusesEnd (keyword word) := refusesEnd_expect nofun

theorem refusesEnd_mark (symbol : Mark) : RefusesEnd (mark symbol) := refusesEnd_expect nofun

/-! ### Steps and how they are joined -/

/-- **A parser that is put together from steps.** If it is built over the end, then it may begin
where the source has ended: it refuses the end of the source, or goes on without looking at it. -/
inductive Built : (overEnd : Bool) → ∀ {α : Type}, Parser α → Prop
  | pure {α : Type} (value : α) : Built true (pure value : Parser α)
  | throw {α : Type} {error : ParseError} : (∀ fault, error ≠ .lexical fault) →
      Built true (throw error : Parser α)
  | advance : Built false advance
  | look {α : Type} {next : Token → Parser α} : (∀ token, Built false (next token)) →
      Built false (current >>= next)
  | bind {overEnd : Bool} {α β : Type} {reader : Parser α} {next : α → Parser β} :
      Built overEnd reader → (∀ value, Built true (next value)) → Built overEnd (reader >>= next)
  /-- A repetition stops at the end of the source, which what follows it then refuses. -/
  | repeated {α β : Type} {begins : TokenKind → Bool} {member : List α → Parser α}
      {earlier : List α} {next : List α → Parser β} : begins .endOfFile = false →
      (∀ earlier, Built true (member earlier)) → (∀ values, Built true (next values)) →
      (∀ values, RefusesEnd (next values)) → Built true (manyWhile begins member earlier >>= next)
  | refusing {α : Type} {reader : Parser α} : Built false reader → RefusesEnd reader →
      Built true reader
  | inside {α : Type} {reader : Parser α} : Built true reader → Built false reader

namespace Built

variable {overEnd : Bool} {reader : Parser α}

theorem map (built : Built overEnd reader) (make : α → β) :
    Built overEnd (do return make (← reader)) := built.bind fun _ => .pure _

theorem discard (built : Built overEnd reader) : Built overEnd (Functor.discard reader) :=
  built.map fun _ => PUnit.unit

end Built

theorem built_refuse (expected : Expectation) : Built false (refuse expected : Parser α) :=
  .look fun _ => .inside (.throw nofun)

theorem built_expect {kind : TokenKind} (inside : kind ≠ .endOfFile) :
    Built true (expect kind) := by
  refine .refusing (.look fun token => ?_) (refusesEnd_expect inside)
  show Built _ (if token.kind = kind then _ else _)
  split
  · exact .advance
  · exact built_refuse _

theorem built_keyword (word : Keyword) : Built true (keyword word) := built_expect nofun

theorem built_mark (symbol : Mark) : Built true (mark symbol) := built_expect nofun

theorem built_identifier : Built true identifier := by
  refine .refusing (.look fun token => ?_) fun _ _ => ⟨_, _, _, rfl⟩
  obtain ⟨kind, place⟩ := token
  cases kind with
  | identifier name => exact Built.advance.map _
  | keyword _ | mark _ | integer _ | decimal _ | string _ | color _ | endOfFile =>
    exact built_refuse _

/-! ### Operands -/

theorem built_integerOperand (text : String) (span : Span) :
    Built true (integerOperand text span) := by
  unfold integerOperand
  cases Integer.read? text.toList with
  | some value => exact .pure _
  | none => exact .throw nofun

theorem built_decimalNumber (text : String) (span : Span) :
    Built true (decimalNumber text span) := by
  unfold decimalNumber
  cases Binary64.read? text.toList with
  | some value => exact .pure _
  | none => exact .throw nofun

theorem built_negated (minus : Token) : Built true (negated minus) := by
  refine .refusing (Built.advance.bind fun number => ?_) fun _ _ => ⟨_, _, _, rfl⟩
  obtain ⟨kind, place⟩ := number
  cases kind with
  | integer digits => exact built_integerOperand _ _
  | decimal text => exact (built_decimalNumber text _).map _
  | keyword _ | mark _ | identifier _ | string _ | color _ | endOfFile => exact .throw nofun

theorem built_expression : Built true expression := by
  refine .refusing (Built.advance.bind fun token => ?_) fun _ _ => ⟨_, _, _, rfl⟩
  obtain ⟨kind, place⟩ := token
  cases kind with
  | integer digits => exact built_integerOperand digits place
  | decimal text => exact (built_decimalNumber text place).map _
  | string _ | identifier _ => exact .pure _
  | mark symbol =>
    cases symbol with
    | minus => exact built_negated _
    | leftBrace | rightBrace | leftParen | rightParen | semicolon | comma | equals =>
      exact .throw nofun
  | keyword _ | color _ | endOfFile => exact .throw nofun

theorem built_optionalExpression : Built true optionalExpression := by
  refine .refusing (.look fun token => ?_) fun _ _ => ⟨_, _, _, rfl⟩
  show Built _ (if endsOperand token.kind then _ else _)
  split
  · exact .inside (.pure _)
  · exact .inside built_expression

theorem built_argument : Built true argument := by
  refine (built_mark _).discard.bind fun _ => ?_
  refine built_optionalExpression.bind fun operand => ?_
  exact (built_mark _).discard.bind fun _ => .pure operand

theorem built_pair : Built true pair := by
  refine (built_mark _).discard.bind fun _ => ?_
  refine built_optionalExpression.bind fun x => ?_
  refine (built_mark _).discard.bind fun _ => ?_
  refine built_optionalExpression.bind fun y => ?_
  exact (built_mark _).discard.bind fun _ => .pure (x, y)

/-! ### Instructions -/

theorem built_callOrAssignment (name : String) : Built true (callOrAssignment name) := by
  refine .refusing (.look fun token => ?_) fun _ _ => ⟨_, _, _, rfl⟩
  show Built _ (if token.kind = .mark .equals then _ else _)
  split
  · exact Built.advance.discard.bind fun _ => built_expression.map _
  · exact .inside (built_argument.map _)

theorem built_instructionForm : Built true instructionForm := by
  refine .refusing (.look fun token => ?_) fun _ _ => ⟨_, _, _, rfl⟩
  obtain ⟨kind, place⟩ := token
  cases kind with
  | keyword word =>
    cases word with
    | left | right | line => exact Built.advance.discard.bind fun _ => built_argument.map _
    | push | pop => exact Built.advance.discard.bind fun _ => .pure _
    | jump => exact Built.advance.discard.bind fun _ => built_pair.map _
    | shape | pencil | rule | initiator | draw | position => exact built_refuse _
  | identifier name => exact Built.advance.discard.bind fun _ => built_callOrAssignment name
  | mark _ | integer _ | decimal _ | string _ | color _ | endOfFile => exact built_refuse _

theorem built_instruction : Built true instruction := by
  refine .refusing (.look fun first => ?_) fun _ _ => ⟨_, _, _, rfl⟩
  exact .inside (built_instructionForm.bind fun form => (built_mark _).map _)

theorem built_block : Built true block := by
  refine (built_mark _).bind fun first => ?_
  exact .repeated rfl (fun _ => built_instruction) (fun _ => (built_mark _).map _)
    fun _ => (refusesEnd_mark _).bind _

/-! ### Shapes and draw statements -/

theorem built_color : Built true color := by
  refine .refusing (.look fun token => ?_) fun _ _ => ⟨_, _, _, rfl⟩
  obtain ⟨kind, place⟩ := token
  cases kind with
  | identifier text | color text | string text => exact Built.advance.map _
  | keyword _ | mark _ | integer _ | decimal _ | endOfFile => exact built_refuse _

theorem built_rule : Built true rule := by
  refine (built_keyword _).bind fun first => ?_
  refine built_identifier.bind fun name => ?_
  refine (built_mark _).discard.bind fun _ => ?_
  refine built_identifier.bind fun parameter => ?_
  exact (built_mark _).discard.bind fun _ => built_block.map _

theorem built_initiator : Built true initiator :=
  (built_keyword _).bind fun _ => built_block.map _

theorem built_shape : Built true shape := by
  refine (built_keyword _).bind fun first => ?_
  refine built_identifier.bind fun name => ?_
  refine (built_mark _).discard.bind fun _ => ?_
  refine (built_keyword _).discard.bind fun _ => ?_
  refine built_color.bind fun pencil => ?_
  refine (built_mark _).discard.bind fun _ => ?_
  refine .repeated rfl (fun _ => built_rule) (fun rules => ?_) fun _ => ?_
  · exact built_initiator.bind fun start => (built_mark _).map _
  · exact ((refusesEnd_keyword _).bind _).bind _

/-- The coordinates of a draw statement, or none, and what follows them. -/
theorem built_position_then {nameSpan : Span} {next : Operand × Operand → Parser α}
    (others : ∀ operands, Built true (next operands))
    (refuses : ∀ operands, RefusesEnd (next operands)) :
    Built true (position nameSpan >>= next) := by
  refine .refusing ?_ ?_
  · have unrolled : position nameSpan >>= next =
        current >>= fun token => (if token.kind = .keyword .position then
          discard advance >>= fun _ => pair
          else pure (⟨.missing, Span.point nameSpan.stop⟩, ⟨.missing, Span.point nameSpan.stop⟩))
            >>= next := bind_assoc _ _ _
    rw [unrolled]
    refine .look fun token => Built.bind ?_ others
    split
    · exact Built.advance.discard.bind fun _ => built_pair
    · exact .inside (.pure _)
  · -- a source that has ended has no coordinates, so what follows them is in its place
    exact fun place length => refuses _ place length

theorem built_draw : Built true draw := by
  refine (built_keyword _).bind fun first => ?_
  refine built_identifier.bind fun name => ?_
  exact built_position_then (fun _ => (built_mark _).map _)
    fun _ => (refusesEnd_mark _).bind _

/-! ### Declarations -/

/-- **A declaration**, whatever came before it. -/
theorem built_declaration (earlier : List Declaration) : Built true (declaration earlier) := by
  refine .refusing (.look fun token => ?_) fun _ _ => ⟨_, _, _, rfl⟩
  obtain ⟨kind, place⟩ := token
  cases kind with
  | keyword word =>
    cases word with
    | shape =>
      refine .inside (built_shape.bind fun definition => ?_)
      show Built _ (if Declaration.defines earlier definition.name then _ else _)
      split
      · exact Built.bind (.throw nofun) fun _ => .pure _
      · exact .pure _
    | draw => exact .inside (built_draw.map _)
    | pencil | rule | initiator | position | left | right | line | push | pop | jump =>
      exact built_refuse _
  | mark _ | identifier _ | integer _ | decimal _ | string _ | color _ | endOfFile =>
    exact built_refuse _

end Parser

end TurtleScene
