/-
**The parser only carries places along.**

Nothing in the parser decides on a place. If all places of a source are changed, and the change
keeps how places are made from each other, then every part of the parser takes the same tokens, and
what it gives or throws is the same but for the change.

* `ParseError.mapSpans`, `Cursor.mapSpans` — errors and cursors at changed places.
* `Carries` — a parser at changed places against the parser at the old ones. It is kept by the steps
  of the parser (`Carries.bind`, `carries_advance`, …) and by repetition (`carries_manyWhile`).
* `carries_expression`, `carries_instruction`, `carries_shape`, … — one lemma for each production.
* `Parser.carries_scene` — the same for the whole parser.
* **`Scene.ofStream_mapSpans`** — the scene of a stream at changed places.
-/

import TurtleScene.Proofs.Relocation
import TurtleScene.Proofs.Steps

namespace TurtleScene

/-! ### Errors and cursors at changed places -/

namespace ParseError

/-- Changes the span of an error. -/
def mapSpans (change : Span → Span) : ParseError → ParseError
  | .lexical error => .lexical { error with span := change error.span }
  | .unexpected expected found => .unexpected expected (found.mapSpans change)
  | .integerOutOfRange text span => .integerOutOfRange text (change span)
  | .malformedDecimal text span => .malformedDecimal text (change span)
  | .duplicateShape name span => .duplicateShape name (change span)
  | .unknownShape name span => .unknownShape name (change span)

/-- No message speaks of a place. -/
@[simp] theorem message_mapSpans (change : Span → Span) (error : ParseError) :
    (error.mapSpans change).message = error.message := by
  cases error <;> rfl

end ParseError

/-- Changes the spans in a stream, and the length of the source with the place of its end. -/
def TokenStream.mapSpans (change : Span → Span) (stream : TokenStream) : TokenStream :=
  ⟨stream.ahead.map (Item.mapSpans change), (change (Span.point stream.length)).start⟩

/-- Changes the spans in front of a cursor. -/
def Cursor.mapSpans (change : Span → Span) (cursor : Cursor) : Cursor :=
  ⟨cursor.current.mapSpans change, cursor.ahead.mapSpans change⟩

section Places

variable {change : Span → Span}

theorem TokenStream.endToken_mapSpans (relocates : Relocates change) (stream : TokenStream) :
    (stream.mapSpans change).endToken = stream.endToken.mapSpans change :=
  congrArg (Token.mk .endOfFile) (relocates.before (Span.point stream.length)).symm

theorem TokenStream.next_mapSpans (relocates : Relocates change) (stream : TokenStream) :
    (stream.mapSpans change).next =
      (stream.next.1.mapSpans change, stream.next.2.mapSpans change) := by
  obtain ⟨ahead, length⟩ := stream
  cases ahead with
  | nil =>
    refine Prod.ext ?_ rfl
    exact congrArg Item.token (TokenStream.endToken_mapSpans relocates ⟨[], length⟩)
  | cons item others => rfl

theorem Cursor.remaining_mapSpans (cursor : Cursor) :
    (cursor.mapSpans change).remaining = cursor.remaining := by
  simp only [remaining, mapSpans, TokenStream.mapSpans, List.length_map]
  rfl

/-- An outcome at changed places. -/
def mapOutcome {α β : Type} (change : Span → Span) (move : α → β) :
    Except ParseError α → Except ParseError β
  | .ok value => .ok (move value)
  | .error error => .error (error.mapSpans change)

/-- Questions in a row are answered at changed places as at the old ones. -/
theorem mapM_mapOutcome {α β γ δ : Type} {answer : α → Except ParseError γ}
    {moved : β → Except ParseError δ} {move : α → β} {further : γ → δ}
    (each : ∀ question, moved (move question) = mapOutcome change further (answer question))
    (questions : List α) :
    (questions.map move).mapM moved =
      mapOutcome change (List.map further) (questions.mapM answer) := by
  induction questions with
  | nil => rfl
  | cons question others ih =>
    rw [List.map_cons, List.mapM_cons, List.mapM_cons, each, ih]
    cases answer question with
    | error error => rfl
    | ok found => cases others.mapM answer <;> rfl

/-- A draw statement finds the shape that it found before. -/
theorem DrawStatement.resolve_map (shapes : List Shape) (statement : DrawStatement) :
    (statement.mapSpans change).resolve (shapes.map (Shape.mapSpans change)) =
      mapOutcome change (Draw.mapSpans change) (statement.resolve shapes) := by
  have found : ((shapes.map (Shape.mapSpans change)).find? fun shape =>
      shape.name == (statement.mapSpans change).shapeName) =
        (shapes.find? fun shape => shape.name == statement.shapeName).map
          (Shape.mapSpans change) := List.find?_map
  unfold resolve
  rw [found]
  cases shapes.find? fun shape => shape.name == statement.shapeName <;> rfl

/-- **Changed declarations make the changed scene**, or are refused for the same reason. -/
theorem Scene.ofDeclarations_map (values : List Declaration) :
    Scene.ofDeclarations (values.map (Declaration.mapSpans change)) =
      mapOutcome change (Scene.mapSpans change) (Scene.ofDeclarations values) := by
  unfold Scene.ofDeclarations
  rw [Declaration.filterMap_shape?_mapSpans, Declaration.filterMap_draw?_mapSpans]
  dsimp only
  rw [mapM_mapOutcome (DrawStatement.resolve_map _)]
  cases (values.filterMap Declaration.draw?).mapM
    (DrawStatement.resolve (values.filterMap Declaration.shape?)) <;> rfl

theorem Declaration.defines_mapSpans (earlier : List Declaration) (name : String) :
    Declaration.defines (earlier.map (Declaration.mapSpans change)) name =
      Declaration.defines earlier name := by
  rw [defines, defines, filterMap_shape?_mapSpans, List.any_map]
  rfl

end Places

/-! ### Parsers at changed places -/

namespace Parser

/-- An answer at changed places. -/
def mapAnswer {α β : Type} (change : Span → Span) (move : α → β) :
    EStateM.Result ParseError Cursor α → EStateM.Result ParseError Cursor β
  | .ok value after => .ok (move value) (after.mapSpans change)
  | .error error after => .error (error.mapSpans change) (after.mapSpans change)

/-- **A parser at changed places** answers what the other one answers at the old ones, but for the
change. -/
def Carries {α β : Type} (change : Span → Span) (move : α → β) (reader : Parser α)
    (moved : Parser β) : Prop :=
  ∀ cursor : Cursor, moved (cursor.mapSpans change) = mapAnswer change move (reader cursor)

section Steps

variable {α β γ δ : Type} {change : Span → Span}

theorem Carries.bind {move : α → β} {further : γ → δ} {reader : Parser α} {moved : Parser β}
    {next : α → Parser γ} {movedNext : β → Parser δ} (first : Carries change move reader moved)
    (others : ∀ value, Carries change further (next value) (movedNext (move value))) :
    Carries change further (reader >>= next) (moved >>= movedNext) := by
  intro cursor
  show EStateM.bind moved movedNext _ = mapAnswer _ _ (EStateM.bind reader next cursor)
  unfold EStateM.bind
  rw [first cursor]
  cases reader cursor with
  | ok value after => exact others value after
  | error error after => rfl

theorem carries_pure {move : α → β} (value : α) :
    Carries change move (pure value) (pure (move value)) := fun _ => rfl

theorem carries_throw {move : α → β} (error : ParseError) :
    Carries change move (throw error) (throw (error.mapSpans change)) := fun _ => rfl

theorem Carries.discard {move : α → β} {reader : Parser α} {moved : Parser β}
    (carries : Carries change move reader moved) :
    Carries change id (Functor.discard reader) (Functor.discard moved) :=
  carries.bind fun _ => carries_pure PUnit.unit

/-- A value kept with what a parser gives. -/
theorem Carries.map {move : α → β} {further : γ → δ} {reader : Parser α} {moved : Parser β}
    {make : α → γ} {makeMoved : β → δ} (carries : Carries change move reader moved)
    (same : ∀ value, makeMoved (move value) = further (make value)) :
    Carries change further (do return make (← reader)) (do return makeMoved (← moved)) := by
  refine carries.bind fun value => ?_
  rw [same]
  exact carries_pure (make value)

theorem carries_current :
    Carries change (Token.mapSpans change) current current := fun _ => rfl

theorem carries_refuse {move : α → β} (expected : Expectation) :
    Carries change move (refuse expected) (refuse expected) := fun _ => rfl

theorem carries_advance (relocates : Relocates change) :
    Carries change (Token.mapSpans change) advance advance := by
  intro cursor
  have isNext : (cursor.mapSpans change).ahead.next =
      (cursor.ahead.next.1.mapSpans change, cursor.ahead.next.2.mapSpans change) :=
    cursor.ahead.next_mapSpans relocates
  unfold advance
  rw [isNext]
  cases cursor.ahead.next with
  | mk item ahead => cases item <;> rfl

theorem carries_expect (relocates : Relocates change) (kind : TokenKind) :
    Carries change (Token.mapSpans change) (expect kind) (expect kind) := by
  refine carries_current.bind fun token => ?_
  show Carries _ _ _ (if token.kind = kind then _ else _)
  split
  · exact carries_advance relocates
  · exact carries_refuse _

/-- A text that is kept with the place of its token. -/
theorem carries_text_and_place (relocates : Relocates change) (text : String) :
    Carries change (Prod.map id change) (do return (text, (← advance).span))
      (do return (text, (← advance).span)) :=
  (carries_advance relocates).map fun _ => rfl

theorem carries_identifier (relocates : Relocates change) :
    Carries change (Prod.map id change) identifier identifier := by
  refine carries_current.bind fun token => ?_
  obtain ⟨kind, place⟩ := token
  cases kind with
  | identifier name => exact carries_text_and_place relocates name
  | keyword _ | mark _ | integer _ | decimal _ | string _ | color _ | endOfFile =>
    exact carries_refuse _

/-- Repetition, for members that carry places along whatever came before them. -/
theorem carries_manyWhile {move : α → β} (begins : TokenKind → Bool)
    {member : List α → Parser α} {moved : List β → Parser β}
    (each : ∀ earlier, Carries change move (member earlier) (moved (earlier.map move)))
    (earlier : List α) :
    Carries change (List.map move) (manyWhile begins member earlier)
      (manyWhile begins moved (earlier.map move)) := by
  intro cursor
  induction size : cursor.remaining using Nat.strong_induction_on generalizing cursor earlier with
  | _ size ih =>
    subst size
    rw [manyWhile, manyWhile]
    show (if begins cursor.current.kind then _ else _) = _
    split
    · rw [each earlier cursor]
      cases member earlier cursor with
      | error error after => rfl
      | ok value after =>
        simp only [mapAnswer, Cursor.remaining_mapSpans]
        split
        · rename_i fewer
          have others := ih _ fewer (value :: earlier) after rfl
          rw [List.map_cons] at others
          rw [others]
          cases manyWhile begins member (value :: earlier) after <;> rfl
        · rfl
    · rfl

end Steps

/-! ### Operands -/

variable {change : Span → Span}

theorem carries_integerOperand (text : String) (span : Span) :
    Carries change (Operand.mapSpans change) (integerOperand text span)
      (integerOperand text (change span)) := by
  unfold integerOperand
  cases Integer.read? text.toList with
  | some value => exact carries_pure _
  | none => exact carries_throw _

theorem carries_decimalNumber (text : String) (span : Span) :
    Carries change id (decimalNumber text span) (decimalNumber text (change span)) := by
  unfold decimalNumber
  cases Binary64.read? text.toList with
  | some value => exact carries_pure _
  | none => exact carries_throw _

theorem carries_negated (relocates : Relocates change) (minus : Token) :
    Carries change (Operand.mapSpans change) (negated minus)
      (negated (minus.mapSpans change)) := by
  refine (carries_advance relocates).bind fun number => ?_
  have joined : (minus.mapSpans change).span.merge (number.mapSpans change).span =
      change (minus.span.merge number.span) := (relocates.merge _ _).symm
  rw [joined]
  obtain ⟨kind, place⟩ := number
  cases kind with
  | integer digits => exact carries_integerOperand _ _
  | decimal text => exact (carries_decimalNumber text _).map fun _ => rfl
  | keyword _ | mark _ | identifier _ | string _ | color _ | endOfFile => exact carries_throw _

theorem carries_expression (relocates : Relocates change) :
    Carries change (Operand.mapSpans change) expression expression := by
  refine (carries_advance relocates).bind fun token => ?_
  obtain ⟨kind, place⟩ := token
  cases kind with
  | integer digits => exact carries_integerOperand digits place
  | decimal text => exact (carries_decimalNumber text place).map fun _ => rfl
  | string _ | identifier _ => exact carries_pure _
  | mark symbol =>
    cases symbol with
    | minus => exact carries_negated relocates ⟨.mark .minus, place⟩
    | leftBrace | rightBrace | leftParen | rightParen | semicolon | comma | equals =>
      exact carries_throw _
  | keyword _ | color _ | endOfFile => exact carries_throw _

theorem carries_optionalExpression (relocates : Relocates change) :
    Carries change (Operand.mapSpans change) optionalExpression optionalExpression := by
  refine carries_current.bind fun token => ?_
  show Carries _ _ _ (if endsOperand token.kind then _ else _)
  split
  · have before : Span.point (token.mapSpans change).span.start =
        change (Span.point token.span.start) := (relocates.before token.span).symm
    rw [before]
    exact carries_pure _
  · exact carries_expression relocates

theorem carries_argument (relocates : Relocates change) :
    Carries change (Operand.mapSpans change) argument argument := by
  refine (carries_expect relocates _).discard.bind fun _ => ?_
  refine (carries_optionalExpression relocates).bind fun operand => ?_
  exact (carries_expect relocates _).discard.bind fun _ => carries_pure operand

theorem carries_pair (relocates : Relocates change) :
    Carries change (Prod.map (Operand.mapSpans change) (Operand.mapSpans change)) pair pair := by
  refine (carries_expect relocates _).discard.bind fun _ => ?_
  refine (carries_optionalExpression relocates).bind fun x => ?_
  refine (carries_expect relocates _).discard.bind fun _ => ?_
  refine (carries_optionalExpression relocates).bind fun y => ?_
  exact (carries_expect relocates _).discard.bind fun _ => carries_pure (x, y)

/-! ### Instructions -/

theorem carries_callOrAssignment (relocates : Relocates change) (name : String) :
    Carries change (InstructionForm.mapSpans change) (callOrAssignment name)
      (callOrAssignment name) := by
  refine carries_current.bind fun token => ?_
  show Carries _ _ _ (if token.kind = .mark .equals then _ else _)
  split
  · refine (carries_advance relocates).discard.bind fun _ => ?_
    exact (carries_expression relocates).map fun _ => rfl
  · exact (carries_argument relocates).map fun _ => rfl

/-- An instruction that is a word and an argument. -/
theorem carries_word_argument (relocates : Relocates change) {wrap : Operand → InstructionForm}
    (same : ∀ operand, wrap (operand.mapSpans change) = (wrap operand).mapSpans change) :
    Carries change (InstructionForm.mapSpans change)
      (do discard advance; return wrap (← argument))
      (do discard advance; return wrap (← argument)) :=
  (carries_advance relocates).discard.bind fun _ => (carries_argument relocates).map same

theorem carries_instructionForm (relocates : Relocates change) :
    Carries change (InstructionForm.mapSpans change) instructionForm instructionForm := by
  refine carries_current.bind fun token => ?_
  obtain ⟨kind, place⟩ := token
  cases kind with
  | keyword word =>
    cases word with
    | left | right | line => exact carries_word_argument relocates fun _ => rfl
    | push | pop => exact (carries_advance relocates).discard.bind fun _ => carries_pure _
    | jump =>
      exact (carries_advance relocates).discard.bind fun _ =>
        (carries_pair relocates).map fun _ => rfl
    | shape | pencil | rule | initiator | draw | position => exact carries_refuse _
  | identifier name =>
    exact (carries_advance relocates).discard.bind fun _ => carries_callOrAssignment relocates name
  | mark _ | integer _ | decimal _ | string _ | color _ | endOfFile => exact carries_refuse _

theorem carries_instruction (relocates : Relocates change) :
    Carries change (Instruction.mapSpans change) instruction instruction := by
  refine carries_current.bind fun first => ?_
  refine (carries_instructionForm relocates).bind fun form => ?_
  exact (carries_expect relocates _).map fun last =>
    congrArg (Instruction.mk _) (relocates.merge first.span last.span).symm

theorem carries_block (relocates : Relocates change) :
    Carries change (Prod.map (List.map (Instruction.mapSpans change)) change) block block := by
  refine (carries_expect relocates _).bind fun first => ?_
  refine (carries_manyWhile _ (fun _ => carries_instruction relocates) []).bind fun _ => ?_
  exact (carries_expect relocates _).map fun last =>
    congrArg (Prod.mk _) (relocates.merge first.span last.span).symm

/-! ### Shapes and draw statements -/

theorem carries_color (relocates : Relocates change) :
    Carries change (Prod.map id change) color color := by
  refine carries_current.bind fun token => ?_
  obtain ⟨kind, place⟩ := token
  cases kind with
  | identifier text | color text | string text => exact carries_text_and_place relocates text
  | keyword _ | mark _ | integer _ | decimal _ | endOfFile => exact carries_refuse _

theorem carries_rule (relocates : Relocates change) :
    Carries change (Rule.mapSpans change) rule rule := by
  refine (carries_expect relocates _).bind fun first => ?_
  refine (carries_identifier relocates).bind fun name => ?_
  refine (carries_expect relocates _).discard.bind fun _ => ?_
  refine (carries_identifier relocates).bind fun parameter => ?_
  refine (carries_expect relocates _).discard.bind fun _ => ?_
  exact (carries_block relocates).map fun body =>
    congrArg (Rule.mk name.1 parameter.1 _) (relocates.merge first.span body.2).symm

theorem carries_initiator (relocates : Relocates change) :
    Carries change (Initiator.mapSpans change) initiator initiator := by
  refine (carries_expect relocates _).bind fun first => ?_
  exact (carries_block relocates).map fun body =>
    congrArg (Initiator.mk _) (relocates.merge first.span body.2).symm

theorem carries_shape (relocates : Relocates change) :
    Carries change (Shape.mapSpans change) shape shape := by
  refine (carries_expect relocates _).bind fun first => ?_
  refine (carries_identifier relocates).bind fun name => ?_
  refine (carries_expect relocates _).discard.bind fun _ => ?_
  refine (carries_expect relocates _).discard.bind fun _ => ?_
  refine (carries_color relocates).bind fun pencil => ?_
  refine (carries_expect relocates _).discard.bind fun _ => ?_
  refine (carries_manyWhile _ (fun _ => carries_rule relocates) []).bind fun rules => ?_
  refine (carries_initiator relocates).bind fun start => ?_
  exact (carries_expect relocates _).map fun last =>
    congrArg (Shape.mk name.1 pencil.1 (change pencil.2) (rules.map (Rule.mapSpans change))
      (start.mapSpans change)) (relocates.merge first.span last.span).symm

theorem carries_position (relocates : Relocates change) (nameSpan : Span) :
    Carries change (Prod.map (Operand.mapSpans change) (Operand.mapSpans change))
      (position nameSpan) (position (change nameSpan)) := by
  refine carries_current.bind fun token => ?_
  show Carries _ _ _ (if token.kind = .keyword .position then _ else _)
  split
  · exact (carries_advance relocates).discard.bind fun _ => carries_pair relocates
  · rw [← relocates.behind nameSpan]
    exact carries_pure _

theorem carries_draw (relocates : Relocates change) :
    Carries change (DrawStatement.mapSpans change) draw draw := by
  refine (carries_expect relocates _).bind fun first => ?_
  refine (carries_identifier relocates).bind fun name => ?_
  refine (carries_position relocates name.2).bind fun place => ?_
  exact (carries_expect relocates _).map fun last =>
    congrArg (DrawStatement.mk name.1 (change name.2) (place.1.mapSpans change)
      (place.2.mapSpans change)) (relocates.merge first.span last.span).symm

/-! ### Scenes -/

theorem carries_declaration (relocates : Relocates change) (earlier : List Declaration) :
    Carries change (Declaration.mapSpans change) (declaration earlier)
      (declaration (earlier.map (Declaration.mapSpans change))) := by
  refine carries_current.bind fun token => ?_
  obtain ⟨kind, place⟩ := token
  cases kind with
  | keyword word =>
    cases word with
    | shape =>
      refine (carries_shape relocates).bind fun definition => ?_
      rw [Declaration.defines_mapSpans]
      show Carries _ _ _ (if Declaration.defines earlier definition.name then _ else _)
      split
      · refine Carries.bind (carries_throw _ : Carries change (id : PUnit → PUnit) _ _) fun _ => ?_
        exact carries_pure (Declaration.shape definition)
      · exact carries_pure (Declaration.shape definition)
    | draw => exact (carries_draw relocates).map fun _ => rfl
    | pencil | rule | initiator | position | left | right | line | push | pop | jump =>
      exact carries_refuse _
  | mark _ | identifier _ | integer _ | decimal _ | string _ | color _ | endOfFile =>
    exact carries_refuse _

theorem carries_ofExcept {α β : Type} {move : α → β} (outcome : Except ParseError α) :
    Carries change move (MonadExcept.ofExcept outcome)
      (MonadExcept.ofExcept (mapOutcome change move outcome)) := by
  cases outcome with
  | ok value => exact carries_pure value
  | error error => exact carries_throw error

/-- **The whole parser only carries places along.** -/
theorem carries_scene (relocates : Relocates change) :
    Carries change (Scene.mapSpans change) scene scene := by
  refine (carries_manyWhile _ (carries_declaration relocates) []).bind fun values => ?_
  rw [Scene.ofDeclarations_map]
  exact carries_ofExcept (Scene.ofDeclarations values)

end Parser

/-! ### Scenes at changed places -/

/-- The scene of a stream. -/
def Scene.ofStream (stream : TokenStream) : Except ParseError Scene :=
  match stream.next with
  | (.token found, ahead) => (Scene.parseFrom ⟨found, ahead⟩).1
  | (.fault error, _) => .error (.lexical error)

theorem Scene.parse_eq_ofStream (source : String) :
    Scene.parse source = Scene.ofStream (TokenStream.ofSource source) := by
  unfold Scene.parse Scene.ofStream Cursor.ofSource
  generalize (TokenStream.ofSource source).next = first
  obtain ⟨item, ahead⟩ := first
  cases item <;> rfl

theorem Scene.parseFrom_mapSpans {change : Span → Span} (relocates : Relocates change)
    (cursor : Cursor) :
    (Scene.parseFrom (cursor.mapSpans change)).1 =
      mapOutcome change (Scene.mapSpans change) (Scene.parseFrom cursor).1 := by
  unfold Scene.parseFrom
  rw [Parser.carries_scene relocates cursor]
  cases Parser.scene cursor <;> rfl

/-- **A stream at changed places has the changed scene**, or is refused for the same reason. -/
theorem Scene.ofStream_mapSpans {change : Span → Span} (relocates : Relocates change)
    (stream : TokenStream) :
    Scene.ofStream (stream.mapSpans change) =
      mapOutcome change (Scene.mapSpans change) (Scene.ofStream stream) := by
  unfold Scene.ofStream
  rw [stream.next_mapSpans relocates]
  cases stream.next with
  | mk item ahead =>
    cases item with
    | fault error => rfl
    | token found => exact Scene.parseFrom_mapSpans relocates ⟨found, ahead⟩

end TurtleScene
