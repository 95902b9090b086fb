/-
**No number with a fraction is refused for its text.**

The token of a number with a fraction has digits on both sides of a point, and such a text can be
read. The parser takes the tokens of the source only, and a call leaves tokens of the source to the
calls behind it; so no call finds a malformed text. Integers are another matter: they are refused
where they have more than 64 bits.

* `Cursor.Legible` — each number with a fraction from a cursor on can be read.
* `Cursor.Legible.reads`, `Cursor.Legible.stopped` — so can the tokens that are left.
* `Scene.legible_parseFrom`, `Scene.accepts_parseManyFrom` — what one call does, and what many do.
* **`Scene.accepts_parseRepeatedly`** — no source is refused for a malformed text.
-/

import TurtleScene.Proofs.Location
import TurtleScene.Proofs.Repetition

namespace TurtleScene

/-! ### Legible tokens -/

/-- A token is a number that can be read, if it is one with a fraction. -/
def Token.Legible (token : Token) : Prop :=
  ∀ text, token.kind = .decimal text → (Binary64.read? text.toList).isSome = true

/-- **The tokens from a cursor on are legible.** -/
structure Cursor.Legible (cursor : Cursor) : Prop where
  current : cursor.current.Legible
  ahead : ∀ token, Item.token token ∈ cursor.ahead.ahead → token.Legible

theorem TokenKind.Spelled.legible {token : Token} (spelled : token.kind.Spelled) :
    token.Legible := by
  intro text isDecimal
  rw [isDecimal] at spelled
  obtain ⟨whole, fraction, inWhole, inFraction, form⟩ := spelled.fraction
  rw [form]
  exact Binary64.isSome_read? inWhole inFraction

namespace Cursor.Legible

variable {cursor last : Cursor}

/-- The next token of a stream is legible, and so are those behind it. -/
theorem of_next {stream : TokenStream}
    (inside : ∀ token, Item.token token ∈ stream.ahead → token.Legible)
    (isNext : stream.next = (.token cursor.current, cursor.ahead)) : cursor.Legible := by
  rcases TokenStream.next_eq_token isNext with ⟨empty, isEnd, same⟩ | ⟨others, isFirst, same⟩
  · refine ⟨fun text isDecimal => ?_, same ▸ inside⟩
    rw [isEnd] at isDecimal
    cases isDecimal
  · rw [isFirst] at inside
    refine ⟨inside _ List.mem_cons_self, fun token member => ?_⟩
    rw [same] at member
    exact inside token (List.mem_cons_of_mem _ member)

/-- Legible tokens are taken, and legible ones are left. -/
theorem reads {read : List Token} (legible : cursor.Legible) (reads : Reads cursor read last) :
    (∀ token ∈ read, token.Legible) ∧ last.Legible := by
  induction read generalizing cursor with
  | nil =>
    cases reads
    exact ⟨nofun, legible⟩
  | cons token others ih =>
    have isCurrent := reads.current_eq
    obtain ⟨after, taken, behind⟩ := reads
    have isNext := (Parser.advance_ok_iff.mp taken).2
    obtain ⟨each, left⟩ := ih (.of_next legible.ahead isNext) behind
    exact ⟨List.forall_mem_cons.mpr ⟨isCurrent ▸ legible.current, each⟩, left⟩

/-- Where a part of the parser stops, too, legible tokens are left. -/
theorem stopped {error : ParseError} (legible : cursor.Legible)
    (stopped : Stopped cursor error last) : last.Legible := by
  cases stopped with
  | refused reads _ => exact (legible.reads reads).2
  | fault reads isFault =>
    obtain ⟨_, current, ahead⟩ := legible.reads reads
    rw [TokenStream.next_eq_fault isFault] at ahead
    exact ⟨current, fun token member => ahead token (List.mem_cons_of_mem _ member)⟩

end Cursor.Legible

/-- **Where the tokens are legible, no text is malformed.** -/
theorem Parser.scene_ne_malformedDecimal {cursor last : Cursor} {error : ParseError}
    (legible : cursor.Legible) (failed : scene cursor = .error error last) (text : String)
    (span : Span) : error ≠ .malformedDecimal text span := by
  rintro rfl
  rcases bind_error_iff.mp failed with stopped | ⟨values, after, _, made⟩
  · cases parses_declarations.blames (bind_error_iff.mpr (.inl stopped)) with
    | meaning reads misjudged =>
      cases misjudged with
      | decimal _ _ member isDecimal unread =>
        have isSome := (legible.reads reads).1 _ member text isDecimal
        rw [unread] at isSome
        cases isSome
  · cases ofValues : Scene.ofDeclarations values with
    | ok scene =>
      rw [ofValues] at made
      cases made
    | error error =>
      obtain ⟨statement, _, rfl⟩ := Scene.exists_of_ofDeclarations_error ofValues
      rw [ofValues] at made
      cases made

namespace Scene

/-- An answer other than that the text of a number is malformed. -/
def Accepts (answer : Except ParseError Scene) : Prop :=
  ∀ text span, answer ≠ .error (.malformedDecimal text span)

/-- **What one call does**: it finds no malformed text, and leaves legible tokens. -/
theorem legible_parseFrom {cursor : Cursor} (legible : cursor.Legible) :
    Accepts (parseFrom cursor).1 ∧ (parseFrom cursor).2.Legible := by
  have reached := Parser.moves_scene cursor
  unfold parseFrom
  cases read : Parser.scene cursor with
  | error error last =>
    rw [read] at reached
    cases reached with
    | error stopped =>
      refine ⟨fun text span same => ?_, legible.stopped stopped⟩
      cases same
      exact Parser.scene_ne_malformedDecimal legible read text span rfl
  | ok scene last =>
    rw [read] at reached
    cases reached with
    | ok reads => exact ⟨nofun, (legible.reads reads).2⟩

/-- **No call of many finds a malformed text.** -/
theorem accepts_parseManyFrom {cursor : Cursor} (legible : cursor.Legible) (times : Nat) :
    ∀ answer ∈ parseManyFrom times cursor, Accepts answer := by
  induction times generalizing cursor with
  | zero => exact fun _ member => (List.not_mem_nil member).elim
  | succ times ih =>
    obtain ⟨accepts, left⟩ := legible_parseFrom legible
    rw [parseManyFrom_succ]
    exact List.forall_mem_cons.mpr ⟨accepts, ih left⟩

/-- A cursor stands on legible tokens when it starts. -/
theorem legible_ofSource {source : String} {cursor : Cursor}
    (starts : Cursor.ofSource source = .ok cursor) : cursor.Legible :=
  .of_next (fun _ member => (spelled_of_mem_itemsFrom member).legible)
    (Cursor.ofSource_ok_iff.mp starts)

/-- **No source is refused for a malformed text**, however often it is read. -/
theorem accepts_parseRepeatedly (times : Nat) (source : String) :
    ∀ answer ∈ parseRepeatedly times source, Accepts answer := by
  unfold parseRepeatedly
  cases starts : Cursor.ofSource source with
  | ok cursor => exact accepts_parseManyFrom (legible_ofSource starts) times
  | error error => exact List.forall_mem_singleton.mpr nofun

theorem accepts_parse (source : String) : Accepts (parse source) := by
  unfold parse
  cases starts : Cursor.ofSource source with
  | ok cursor => exact (legible_parseFrom (legible_ofSource starts)).1
  | error error => exact nofun

/-- No other cause is worded like a malformed text. -/
theorem Accepts.message_ne {error : ParseError} (accepts : Accepts (.error error))
    (text : String) : error.message ≠ "invalid float literal '" ++ text ++ "'" := by
  cases error with
  | malformedDecimal other span => exact (accepts other span rfl).elim
  | lexical _ | unexpected _ _ | integerOutOfRange _ _ | duplicateShape _ _ | unknownShape _ _ =>
    refine ParseError.message_ne ?_
    dsimp only [ParseError.opening]
    decide

end Scene

end TurtleScene
