/-
**Reading a scene again and again.**

A parser that is asked for another scene goes on where it stopped, be it behind a scene or in the
middle of a refused one. A call passes tokens, and at most one fault of the text, which it then
answers with. So the faults are answered with in their order and none is lost, a scene comes only
when all of them are passed, and a call that does not move the parser is repeated by all later ones.

* `Stopped` — where a part of the parser stops if it fails.
* `Moves` — a parser moves over tokens, and over a fault only if it answers with it; so does every
  parser that is put together from steps (`Built.moves`).
* `Scene.Call` — what one call does to the cursor (`Scene.call_parseFrom`).
* `Scene.lexicalErrors_prefix`, `Scene.nothing_behind_scene`, `Scene.answers_settle` — all calls.
* **`Scene.parseRepeatedly_passes_faults`** — the answers of a source that is read again and again.
-/

import TurtleScene.Proofs.Causes
import TurtleScene.Proofs.Composition
import TurtleScene.Proofs.Coverage

namespace TurtleScene

/-! ### Faults ahead -/

/-- The fault of an item, if it is one. -/
def Item.fault? : Item → Option LexicalError
  | .token _ => none
  | .fault error => some error

/-- The faults among items, in order. -/
def faults (items : List Item) : List LexicalError := items.filterMap Item.fault?

/-- A token is passed and no fault is. -/
theorem faults_of_next {stream after : TokenStream} {found : Token}
    (isNext : stream.next = (.token found, after)) : faults after.ahead = faults stream.ahead := by
  rcases TokenStream.next_eq_token isNext with ⟨_, _, same⟩ | ⟨others, isFirst, same⟩
  · rw [same]
  · rw [same, isFirst]
    rfl

namespace Cursor

/-- **A cursor stands among the items of a source**: the end of the source is no item, and where it
is current nothing is ahead. -/
structure Sound (cursor : Cursor) : Prop where
  inside : ∀ token, Item.token token ∈ cursor.ahead.ahead → token.kind ≠ .endOfFile
  ended : cursor.current.kind = .endOfFile →
    cursor.ahead.ahead = [] ∧ cursor.current = cursor.ahead.endToken

/-- The first token of a stream stands among its items. -/
theorem Sound.of_next {stream : TokenStream} {cursor : Cursor}
    (inside : ∀ token, Item.token token ∈ stream.ahead → token.kind ≠ .endOfFile)
    (isNext : stream.next = (.token cursor.current, cursor.ahead)) : cursor.Sound := by
  rcases TokenStream.next_eq_token isNext with ⟨empty, isEnd, same⟩ | ⟨others, isFirst, same⟩
  · refine ⟨?_, fun _ => ?_⟩
    · rwa [same]
    · rw [same]
      exact ⟨empty, isEnd⟩
  · rw [isFirst] at inside
    have isCurrent := inside _ List.mem_cons_self
    refine ⟨fun token member => inside token (List.mem_cons_of_mem _ ?_),
      fun isEnd => (isCurrent isEnd).elim⟩
    rwa [same] at member

/-- On its first token a cursor has as much to be read as the stream has items. -/
theorem remaining_le_of_next {stream : TokenStream} {cursor : Cursor}
    (isNext : stream.next = (.token cursor.current, cursor.ahead)) :
    cursor.remaining ≤ stream.ahead.length := by
  rcases TokenStream.next_eq_token isNext with ⟨empty, isEnd, same⟩ | ⟨others, isFirst, same⟩
  · have atEnd : cursor.atEnd = true := by
      rw [Cursor.atEnd, isEnd]
      rfl
    rw [remaining, same, empty, if_pos atEnd]
    exact Nat.le_refl 0
  · rw [remaining, same, isFirst, List.length_cons]
    dsimp only
    split <;> omega

end Cursor

/-- Behind a token that is taken a cursor stands among the items as well. -/
theorem Cursor.Sound.advance {cursor last : Cursor} {token : Token} (sound : cursor.Sound)
    (taken : Parser.advance cursor = .ok token last) : last.Sound :=
  .of_next sound.inside (Parser.advance_ok_iff.mp taken).2

theorem Cursor.Sound.reads {cursor last : Cursor} {read : List Token} (sound : cursor.Sound)
    (reads : Reads cursor read last) : last.Sound := by
  induction read generalizing cursor with
  | nil =>
    cases reads
    exact sound
  | cons token others ih =>
    obtain ⟨after, taken, behind⟩ := reads
    exact ih (sound.advance taken) behind

/-- Behind the end of the source is the same end. -/
theorem Cursor.Sound.eq_of_ended {cursor last : Cursor} {token : Token} (sound : cursor.Sound)
    (isEnd : cursor.current.kind = .endOfFile) (taken : Parser.advance cursor = .ok token last) :
    last = cursor := by
  have isNext := (Parser.advance_ok_iff.mp taken).2
  obtain ⟨empty, isEndToken⟩ := sound.ended isEnd
  have again : cursor.ahead.next = (.token cursor.current, cursor.ahead) := by
    unfold TokenStream.next
    rw [empty, isEndToken]
  rw [again] at isNext
  obtain ⟨current, ahead⟩ := last
  cases isNext
  rfl

/-- Tokens are passed and no fault is. -/
theorem Reads.faults_eq {cursor last : Cursor} {read : List Token}
    (reads : Reads cursor read last) : faults last.ahead.ahead = faults cursor.ahead.ahead := by
  induction read generalizing cursor with
  | nil =>
    cases reads
    rfl
  | cons token others ih =>
    obtain ⟨after, taken, behind⟩ := reads
    rw [ih behind, faults_of_next (Parser.advance_ok_iff.mp taken).2]

/-- **Reading tokens leaves a cursor where it is, or leaves less to be read.** -/
theorem Reads.settles {cursor last : Cursor} {read : List Token} (sound : cursor.Sound)
    (reads : Reads cursor read last) : last = cursor ∨ last.remaining < cursor.remaining := by
  induction read generalizing cursor with
  | nil =>
    cases reads
    exact .inl rfl
  | cons token others ih =>
    by_cases isEnd : token.kind = .endOfFile
    · rw [← reads.current_eq] at isEnd
      obtain ⟨after, taken, behind⟩ := reads
      rw [sound.eq_of_ended isEnd taken] at behind
      exact ih sound behind
    · exact .inr (reads.remaining_lt isEnd)

/-- A fault that a stream gives is the first of its items. -/
theorem TokenStream.next_eq_fault {stream after : TokenStream} {error : LexicalError}
    (isNext : stream.next = (.fault error, after)) :
    stream.ahead = .fault error :: after.ahead := by
  obtain ⟨ahead, length⟩ := stream
  cases ahead with
  | nil => cases isNext
  | cons item others =>
    cases isNext
    rfl

/-! ### Where parsers stop -/

/-- **Where a part of the parser stops if it fails.** A fault of the text is passed. -/
inductive Stopped (cursor : Cursor) : ParseError → Cursor → Prop
  | fault {read : List Token} {stop : Cursor} {error : LexicalError} {ahead : TokenStream} :
      Reads cursor read stop → stop.ahead.next = (.fault error, ahead) →
      Stopped cursor (.lexical error) ⟨stop.current, ahead⟩
  | refused {read : List Token} {last : Cursor} {error : ParseError} : Reads cursor read last →
      (∀ fault, error ≠ .lexical fault) → Stopped cursor error last

theorem Stopped.behind {cursor after last : Cursor} {read : List Token} {error : ParseError}
    (stopped : Stopped after error last) (reads : Reads cursor read after) :
    Stopped cursor error last := by
  cases stopped with
  | fault further isFault => exact .fault (reads_append.mpr ⟨after, reads, further⟩) isFault
  | refused further notLexical =>
    exact .refused (reads_append.mpr ⟨after, reads, further⟩) notLexical

/-- **Where a part of the parser comes to**: behind tokens, or where it stops if it fails. -/
inductive Reached {α : Type} (cursor : Cursor) : EStateM.Result ParseError Cursor α → Prop
  | ok {read : List Token} {value : α} {last : Cursor} : Reads cursor read last →
      Reached cursor (.ok value last)
  | error {error : ParseError} {last : Cursor} : Stopped cursor error last →
      Reached cursor (.error error last)

theorem Reached.behind {α : Type} {cursor after : Cursor} {read : List Token}
    {answer : EStateM.Result ParseError Cursor α} (reached : Reached after answer)
    (reads : Reads cursor read after) : Reached cursor answer := by
  cases reached with
  | ok further => exact .ok (reads_append.mpr ⟨after, reads, further⟩)
  | error stopped => exact .error (stopped.behind reads)

namespace Parser

variable {α β : Type}

/-- **A parser moves over tokens**, and over a fault only if it fails with it. -/
def Moves (reader : Parser α) : Prop := ∀ cursor, Reached cursor (reader cursor)

theorem moves_pure (value : α) : Moves (pure value : Parser α) :=
  fun _ => .ok (reads_nil.mpr rfl)

theorem moves_throw {error : ParseError} (notLexical : ∀ fault, error ≠ .lexical fault) :
    Moves (throw error : Parser α) :=
  fun _ => .error (.refused (reads_nil.mpr rfl) notLexical)

theorem moves_advance : Moves advance := by
  intro cursor
  cases taken : advance cursor with
  | ok token last => exact .ok (reads_singleton.mpr taken)
  | error error last =>
    unfold advance at taken
    split at taken
    · cases taken
    · rename_i isFault
      cases taken
      exact .error (.fault (reads_nil.mpr rfl) isFault)

/-- What comes behind a parser starts where that one comes to. -/
theorem Moves.bind {reader : Parser α} {next : α → Parser β} (first : Moves reader)
    (others : ∀ value, Moves (next value)) : Moves (reader >>= next) := by
  intro cursor
  show Reached cursor (EStateM.bind reader next cursor)
  unfold EStateM.bind
  have reached := first cursor
  generalize reader cursor = answer at reached ⊢
  cases reached with
  | error stopped => exact .error stopped
  | ok reads => exact (others _ _).behind reads

theorem Moves.manyWhile {begins : TokenKind → Bool} {member : List α → Parser α}
    (each : ∀ earlier, Moves (member earlier)) (earlier : List α) :
    Moves (manyWhile begins member earlier) := by
  intro cursor
  induction size : cursor.remaining using Nat.strong_induction_on generalizing cursor earlier with
  | _ size ih =>
    subst size
    rw [Parser.manyWhile]
    split
    · have reached := each earlier cursor
      generalize member earlier cursor = answer at reached ⊢
      cases reached with
      | error stopped => exact .error stopped
      | @ok _ value after reads =>
        dsimp only
        split
        · rename_i fewer
          have further := (ih _ fewer (value :: earlier) after rfl).behind reads
          generalize Parser.manyWhile begins member (value :: earlier) after = others at further ⊢
          cases further with
          | ok both => exact .ok both
          | error stopped => exact .error stopped
        · exact .ok reads
    · exact .ok (reads_nil.mpr rfl)

/-- **Every parser that is put together from steps moves over tokens.** -/
theorem Built.moves {overEnd : Bool} {reader : Parser α} (built : Built overEnd reader) :
    Moves reader := by
  induction built with
  | pure value => exact moves_pure value
  | throw notLexical => exact moves_throw notLexical
  | advance => exact moves_advance
  | look _ ih => exact fun cursor => ih cursor.current cursor
  | bind _ _ first others => exact first.bind others
  | repeated _ _ _ _ member others => exact (Moves.manyWhile member _).bind others
  | refusing _ _ ih => exact ih
  | inside _ ih => exact ih

/-- The whole parser moves over tokens. -/
theorem moves_scene : Moves scene := by
  refine (Moves.manyWhile (fun earlier => (built_declaration earlier).moves) []).bind
    fun values => ?_
  cases made : Scene.ofDeclarations values with
  | ok scene => exact moves_pure scene
  | error error =>
    obtain ⟨statement, _, rfl⟩ := Scene.exists_of_ofDeclarations_error made
    exact moves_throw nofun

end Parser

/-! ### Calls -/

namespace Scene

/-- The fault that an answer tells, if it tells one. -/
def answeredFault? : Except ParseError Scene → Option LexicalError
  | .error (.lexical error) => some error
  | _ => none

/-- The faults among answers, in the order of the calls. -/
def lexicalErrors (answers : List (Except ParseError Scene)) : List LexicalError :=
  answers.filterMap answeredFault?

/-- **What one call does**: it answers with the fault that it passes, if it passes one, and comes
closer to the end of the source or does not move. A scene comes at the end of the source only. -/
structure Call (cursor : Cursor) (answer : Except ParseError Scene) (after : Cursor) : Prop where
  sound : after.Sound
  passed : faults cursor.ahead.ahead = (answeredFault? answer).toList ++ faults after.ahead.ahead
  settles : after = cursor ∨ after.remaining < cursor.remaining
  ended : ∀ scene, answer = .ok scene → after.current.kind = .endOfFile

theorem Call.of_stopped {cursor last : Cursor} {error : ParseError} (sound : cursor.Sound)
    (stopped : Stopped cursor error last) : Call cursor (.error error) last := by
  cases stopped with
  | @fault read stop error ahead reads isFault =>
    have isFirst := TokenStream.next_eq_fault isFault
    have behind := sound.reads reads
    have shorter : (Cursor.mk stop.current ahead).remaining < stop.remaining := by
      show ahead.ahead.length + (if stop.atEnd then 0 else 1) <
        stop.ahead.ahead.length + if stop.atEnd then 0 else 1
      rw [isFirst, List.length_cons]
      exact Nat.add_lt_add_right (Nat.lt_succ_self _) _
    refine ⟨⟨fun token member => ?_, fun isEnd => ?_⟩, ?_, .inr ?_, nofun⟩
    · exact behind.inside token (isFirst ▸ List.mem_cons_of_mem _ member)
    · -- a fault stands in front of the end of the source
      have empty := (behind.ended isEnd).1
      rw [isFirst] at empty
      cases empty
    · rw [← reads.faults_eq, isFirst]
      rfl
    · exact Nat.lt_of_lt_of_le shorter reads.remaining_le
  | refused reads notLexical =>
    have none : answeredFault? (.error error) = none := by
      cases error with
      | lexical fault => exact (notLexical fault rfl).elim
      | unexpected | integerOutOfRange | malformedDecimal | duplicateShape | unknownShape => rfl
    refine ⟨sound.reads reads, ?_, reads.settles sound, nofun⟩
    rw [none, reads.faults_eq]
    rfl

/-- A scene is read up to the end of the source. -/
theorem ended_of_scene {cursor last : Cursor} {scene : Scene}
    (read : Parser.scene cursor = .ok scene last) : last.current.kind = .endOfFile := by
  obtain ⟨values, after, declared, made⟩ := Parser.bind_ok_iff.mp read
  have isEnd := (Parser.declarations_ok_iff.mp declared).1
  cases ofValues : Scene.ofDeclarations values with
  | error error =>
    rw [ofValues] at made
    cases made
  | ok scene =>
    rw [ofValues] at made
    cases made
    exact isEnd

/-- **What every call does.** -/
theorem call_parseFrom {cursor : Cursor} (sound : cursor.Sound) :
    Call cursor (parseFrom cursor).1 (parseFrom cursor).2 := by
  have reached := Parser.moves_scene cursor
  unfold parseFrom
  cases read : Parser.scene cursor with
  | error error last =>
    rw [read] at reached
    cases reached with
    | error stopped => exact .of_stopped sound stopped
  | ok scene last =>
    rw [read] at reached
    cases reached with
    | ok reads =>
      refine ⟨sound.reads reads, ?_, reads.settles sound, fun _ _ => ended_of_scene read⟩
      rw [reads.faults_eq]
      rfl

/-- At the end of the source is an empty scene, over and over. -/
theorem parseFrom_of_ended {cursor : Cursor} (ended : cursor.current.kind = .endOfFile) :
    parseFrom cursor = (.ok ⟨[]⟩, cursor) := by
  have none : Parser.manyWhile (· ≠ .endOfFile) Parser.declaration [] cursor = .ok [] cursor := by
    rw [Parser.manyWhile, ended]
    rfl
  have read : Parser.scene cursor = .ok ⟨[]⟩ cursor :=
    Parser.bind_ok_iff.mpr ⟨[], cursor, none, rfl⟩
  rw [parseFrom, read]

/-! ### Calls in a row -/

theorem parseManyFrom_succ (times : Nat) (cursor : Cursor) : parseManyFrom (times + 1) cursor =
    (parseFrom cursor).1 :: parseManyFrom times (parseFrom cursor).2 := rfl

theorem length_parseManyFrom (times : Nat) (cursor : Cursor) :
    (parseManyFrom times cursor).length = times := by
  induction times generalizing cursor with
  | zero => rfl
  | succ times ih => rw [parseManyFrom_succ, List.length_cons, ih]

theorem lexicalErrors_cons (answer : Except ParseError Scene)
    (others : List (Except ParseError Scene)) :
    lexicalErrors (answer :: others) = (answeredFault? answer).toList ++ lexicalErrors others := by
  rw [lexicalErrors, List.filterMap_cons]
  cases answeredFault? answer <;> rfl

/-- A call that does not move the cursor is repeated by all later ones. -/
theorem parseManyFrom_of_stays {cursor : Cursor} (stays : (parseFrom cursor).2 = cursor)
    (times : Nat) : parseManyFrom times cursor = List.replicate times (parseFrom cursor).1 := by
  induction times with
  | zero => rfl
  | succ times ih => rw [parseManyFrom_succ, stays, ih, List.replicate_succ]

/-- **The faults come in their order and none is lost.** -/
theorem lexicalErrors_prefix {cursor : Cursor} (sound : cursor.Sound) (times : Nat) :
    lexicalErrors (parseManyFrom times cursor) <+: faults cursor.ahead.ahead := by
  induction times generalizing cursor with
  | zero => exact List.nil_prefix
  | succ times ih =>
    have call := call_parseFrom sound
    rw [parseManyFrom_succ, lexicalErrors_cons, call.passed]
    exact List.prefix_append_right_inj _ |>.mpr (ih call.sound)

/-- **A scene comes when all faults are told**, and nothing but empty scenes behind it. -/
theorem nothing_behind_scene {cursor : Cursor} {times : Nat} {scene : Scene}
    {before behind : List (Except ParseError Scene)} (sound : cursor.Sound)
    (split : parseManyFrom times cursor = before ++ .ok scene :: behind) :
    lexicalErrors before = faults cursor.ahead.ahead ∧ ∀ answer ∈ behind, answer = .ok ⟨[]⟩ := by
  induction times generalizing cursor before with
  | zero => cases (List.append_eq_nil_iff.mp split.symm).2
  | succ times ih =>
    have call := call_parseFrom sound
    rw [parseManyFrom_succ] at split
    rw [call.passed]
    cases before with
    | nil =>
      obtain ⟨isScene, rfl⟩ := List.cons.inj split
      have ended := call.ended scene isScene
      have atEnd := parseFrom_of_ended ended
      rw [isScene, (call.sound.ended ended).1, parseManyFrom_of_stays (by rw [atEnd]), atEnd]
      exact ⟨rfl, fun answer member => List.eq_of_mem_replicate member⟩
    | cons first others =>
      obtain ⟨rfl, further⟩ := List.cons.inj split
      obtain ⟨told, empty⟩ := ih call.sound further
      rw [lexicalErrors_cons, told]
      exact ⟨rfl, empty⟩

/-- **The answers settle** after as many calls as there are items left. -/
theorem answers_settle {cursor : Cursor} {times bound index : Nat} (sound : cursor.Sound)
    (enough : cursor.remaining ≤ bound) (later : bound ≤ index) (within : index < times) :
    (parseManyFrom times cursor)[index]? = (parseManyFrom times cursor)[bound]? := by
  induction times generalizing cursor bound index with
  | zero => exact (Nat.not_lt_zero _ within).elim
  | succ times ih =>
    have call := call_parseFrom sound
    rcases call.settles with stays | closer
    · rw [parseManyFrom_of_stays stays, List.getElem?_replicate_of_lt within,
        List.getElem?_replicate_of_lt (Nat.lt_of_le_of_lt later within)]
    · obtain ⟨bound, rfl⟩ := Nat.exists_eq_add_one_of_ne_zero (n := bound) (by omega)
      obtain ⟨index, rfl⟩ := Nat.exists_eq_add_one_of_ne_zero (n := index) (by omega)
      rw [parseManyFrom_succ, List.getElem?_cons_succ, List.getElem?_cons_succ]
      exact ih call.sound (by omega) (by omega) (by omega)

/-- **A source that is read again and again** answers with its faults in their order; once it has
answered with a scene, all faults are told and only empty scenes follow; and after as many calls as
it has items, all answers are the same. -/
theorem parseRepeatedly_passes_faults {source : String} {cursor : Cursor}
    (starts : Cursor.ofSource source = .ok cursor) :
    ∃ items, (TokenStream.ofSource source).Gives items ∧
      (∀ token, Item.token token ∈ items → token.kind ≠ .endOfFile) ∧
      ∀ times, (parseRepeatedly times source).length = times ∧
        lexicalErrors (parseRepeatedly times source) <+: faults items ∧
        (∀ before scene behind, parseRepeatedly times source = before ++ .ok scene :: behind →
          lexicalErrors before = faults items ∧ ∀ answer ∈ behind, answer = .ok ⟨[]⟩) ∧
        ∀ index, items.length ≤ index → index < times →
          (parseRepeatedly times source)[index]? =
            (parseRepeatedly times source)[items.length]? := by
  have isFirst := Cursor.ofSource_ok_iff.mp starts
  have inside : ∀ token, Item.token token ∈ (TokenStream.ofSource source).ahead →
      token.kind ≠ .endOfFile := fun token member => (spelled_of_mem_itemsFrom member).ne_endOfFile
  have sound := Cursor.Sound.of_next inside isFirst
  have enough := Cursor.remaining_le_of_next isFirst
  refine ⟨_, TokenStream.gives_ahead _, inside, fun times => ?_⟩
  have answers : parseRepeatedly times source = parseManyFrom times cursor := by
    rw [parseRepeatedly, starts]
  rw [answers, ← faults_of_next isFirst]
  exact ⟨length_parseManyFrom times cursor, lexicalErrors_prefix sound times,
    fun before scene behind split => nothing_behind_scene sound split,
    fun index later within => answers_settle sound enough later within⟩

/-- A draw statement with a fault in it is read at the second call, and its shape is unknown; the
third call is at the end of the source. -/
theorem parseRepeatedly_passes_faults_draw :
    let source := "draw @ a;"
    let fault : LexicalError := ⟨"@", ⟨5, 6⟩⟩
    let cursor : Cursor := ⟨⟨.keyword .draw, ⟨0, 4⟩⟩,
      ⟨[.fault fault, .token ⟨.identifier "a", ⟨7, 8⟩⟩, .token ⟨.mark .semicolon, ⟨8, 9⟩⟩], 9⟩⟩
    let refused := [.error (.lexical fault), .error (.unknownShape "a" ⟨7, 8⟩)]
    Cursor.ofSource source = .ok cursor ∧
      parseRepeatedly 5 source = refused ++ [.ok ⟨[]⟩, .ok ⟨[]⟩, .ok ⟨[]⟩] ∧
      ∃ items, (TokenStream.ofSource source).Gives items ∧
        lexicalErrors refused = faults items := by
  intro source fault cursor refused
  have starts : Cursor.ofSource source = .ok cursor := by
    simp only [source, cursor, fault]
    decide +kernel
  have answers : parseRepeatedly 5 source = refused ++ [.ok ⟨[]⟩, .ok ⟨[]⟩, .ok ⟨[]⟩] := by
    simp only [source, refused, fault]
    decide +kernel
  obtain ⟨items, gives, _, calls⟩ := parseRepeatedly_passes_faults starts
  exact ⟨starts, answers, items, gives, ((calls 5).2.2.1 _ _ _ answers).1⟩

end Scene

end TurtleScene
