/-
**An error depends on the text read so far.**

The parser looks one token ahead. Two sources that begin with the same items are read in step up to
the last of these, and one token further. So a source is refused for the same reason when more text
follows, unless the reason is that the source has ended, or that it does not define a shape yet.

* `ParseError.Provisional` — an error that more text may take back.
* `Together`, `Agrees` — two cursors that are read in step, and what a parser gives at them.
* `Parser.Built.agrees_in_step` — what is put together from steps agrees on two sources.
* `Scene.ofStream_error_kept` — two streams that begin with the same items.
* **`Scene.parse_error_kept`** — an error of a source, with more text behind it and with less.
-/

import TurtleScene.Proofs.Composition
import TurtleScene.Proofs.Location
import TurtleScene.Proofs.Newline
import TurtleScene.Proofs.Transport

namespace TurtleScene

open Text

/-! ### Errors that are taken back -/

/-- **An error that more text may take back**: a fault of the text, the end of the source where
something else is asked for, or a shape that is not defined. -/
inductive ParseError.Provisional : ParseError → Prop
  | fault (error : LexicalError) : Provisional (.lexical error)
  | ended (expected : Expectation) (place : Span) :
      Provisional (.unexpected expected ⟨.endOfFile, place⟩)
  | unknown (name : String) (place : Span) : Provisional (.unknownShape name place)

/-! ### Cursors in step -/

section InStep

variable {rest other : List Item} {α β : Type}

/-- Two cursors in front of the same items, with something else behind these. -/
structure Alike (rest other : List Item) (cursor partner : Cursor) : Prop where
  current : cursor.current = partner.current
  ahead : ∃ shared, cursor.ahead.ahead = shared ++ rest ∧ partner.ahead.ahead = shared ++ other

/-- Two such cursors have the same number of items left until they part. -/
theorem Alike.remaining {cursor partner : Cursor} (alike : Alike rest other cursor partner) :
    cursor.remaining + other.length = partner.remaining + rest.length := by
  obtain ⟨same, shared, ahead, further⟩ := alike
  have bothEnd : cursor.atEnd = partner.atEnd := by rw [Cursor.atEnd, Cursor.atEnd, same]
  rw [Cursor.remaining, Cursor.remaining, bothEnd, ahead, further, List.length_append,
    List.length_append]
  omega

/-- **Two cursors are read in step**: they are alike, or the first one is at the end. -/
inductive Together (rest other : List Item) (cursor partner : Cursor) : Prop
  | alike : Alike rest other cursor partner → Together rest other cursor partner
  | ended : cursor.current.kind = .endOfFile → cursor.ahead.ahead = [] →
      Together rest other cursor partner

/-- **Two sources part at an edge**: the first one ends, and the other one has no fault there, or
the first one has a fault. -/
def Edge (rest other : List Item) : Prop :=
  rest = [] ∧ (∀ fault others, other ≠ .fault fault :: others) ∨
    ∃ fault others, rest = .fault fault :: others

/-- **What a parser gives at two cursors agrees**, unless the first answer may be taken back. -/
inductive Agrees (rest other : List Item) :
    EStateM.Result ParseError Cursor α → EStateM.Result ParseError Cursor α → Prop
  | ok {value : α} {last behind : Cursor} : Together rest other last behind →
      Agrees rest other (.ok value last) (.ok value behind)
  | error {error : ParseError} {last behind : Cursor} :
      Agrees rest other (.error error last) (.error error behind)
  | provisional {error : ParseError} {last : Cursor}
      {answer : EStateM.Result ParseError Cursor α} : error.Provisional →
      Agrees rest other (.error error last) answer

namespace Parser

/-- What comes behind a parser agrees if it agrees wherever that one may come to. -/
theorem agrees_bind {reader : Parser α} {next : α → Parser β} {cursor partner : Cursor}
    (first : Agrees rest other (reader cursor) (reader partner))
    (others : ∀ value last behind, Together rest other last behind →
      Agrees rest other (next value last) (next value behind)) :
    Agrees rest other ((reader >>= next) cursor) ((reader >>= next) partner) := by
  show Agrees rest other (EStateM.bind reader next cursor) (EStateM.bind reader next partner)
  unfold EStateM.bind
  generalize reader cursor = answer at first ⊢
  generalize reader partner = counterpart at first ⊢
  cases first with
  | ok together => exact others _ _ _ together
  | error => exact .error
  | provisional mayChange => exact .provisional mayChange

/-- A token is taken from both sources, or a fault is met that the first one parts with. -/
theorem agrees_advance (edge : Edge rest other) {cursor partner : Cursor}
    (alike : Alike rest other cursor partner) :
    Agrees rest other (advance cursor) (advance partner) := by
  obtain ⟨same, shared, ahead, further⟩ := alike
  obtain ⟨current, items, length⟩ := cursor
  obtain ⟨_, others, total⟩ := partner
  cases same
  cases ahead
  cases further
  cases shared with
  | cons item shared =>
    cases item with
    | token found => exact .ok (.alike ⟨rfl, shared, rfl, rfl⟩)
    | fault error => exact .provisional (.fault error)
  | nil =>
    rcases edge with ⟨rfl, noFault⟩ | ⟨fault, behind, rfl⟩
    · cases other with
      | nil => exact .ok (.ended rfl rfl)
      | cons item more =>
        cases item with
        | token found => exact .ok (.ended rfl rfl)
        | fault error => exact (noFault error more rfl).elim
    · exact .provisional (.fault fault)

/-- A parser that refuses the end of the source has an answer there that may be taken back. -/
theorem RefusesEnd.agrees {reader : Parser α} (refuses : RefusesEnd reader) {cursor : Cursor}
    (isEnd : cursor.current.kind = .endOfFile) (empty : cursor.ahead.ahead = [])
    (answer : EStateM.Result ParseError Cursor α) :
    Agrees rest other (reader cursor) answer := by
  obtain ⟨⟨kind, place⟩, ahead, length⟩ := cursor
  cases isEnd
  cases empty
  obtain ⟨expected, span, last, failed⟩ := refuses place length
  rw [failed]
  exact .provisional (.ended expected span)

/-! ### Repetition -/

/-- One round of a repetition, and what follows it. -/
theorem manyWhile_then_eq {begins : TokenKind → Bool} {member : List α → Parser α}
    {earlier : List α} {next : List α → Parser β} (cursor : Cursor) :
    (manyWhile begins member earlier >>= next) cursor =
      if begins cursor.current.kind then
        match member earlier cursor with
        | .error error after => .error error after
        | .ok value after =>
          if after.remaining < cursor.remaining then
            (manyWhile begins member (value :: earlier) >>= fun others => next (value :: others))
              after
          else next [value] after
      else next [] cursor := by
  show EStateM.bind _ _ cursor = _
  unfold EStateM.bind
  rw [manyWhile]
  by_cases begun : begins cursor.current.kind = true
  · rw [if_pos begun, if_pos begun]
    cases member earlier cursor with
    | error error after => rfl
    | ok value after =>
      dsimp only
      by_cases fewer : after.remaining < cursor.remaining
      · rw [if_pos fewer, if_pos fewer]
        show _ = EStateM.bind _ _ after
        unfold EStateM.bind
        cases manyWhile begins member (value :: earlier) after <;> rfl
      · rw [if_neg fewer, if_neg fewer]
  · rw [if_neg begun, if_neg begun]

theorem refusesEnd_manyWhile {begins : TokenKind → Bool} {member : List α → Parser α}
    {earlier : List α} {next : List α → Parser β} (ends : begins .endOfFile = false)
    (refuses : ∀ values, RefusesEnd (next values)) :
    RefusesEnd (manyWhile begins member earlier >>= next) := by
  intro place length
  rw [manyWhile_then_eq, if_neg (by rw [ends]; exact Bool.false_ne_true)]
  exact refuses [] place length

/-- Less is left at the end of a source than in front of a token. -/
theorem remaining_lt_of_ended {cursor after : Cursor} (isEnd : after.current.kind = .endOfFile)
    (empty : after.ahead.ahead = []) (inside : cursor.current.kind ≠ .endOfFile) :
    after.remaining < cursor.remaining := by
  have ended : after.atEnd = true := decide_eq_true isEnd
  have goesOn : ¬ cursor.atEnd = true := fun atEnd => inside (of_decide_eq_true atEnd)
  rw [Cursor.remaining, Cursor.remaining, empty, if_pos ended, if_neg goesOn]
  exact Nat.succ_pos _

/-- **Repetition agrees**, if what follows it refuses the end of the source. -/
theorem agrees_manyWhile_then {begins : TokenKind → Bool} {member : List α → Parser α}
    (ends : begins .endOfFile = false)
    (each : ∀ earlier cursor partner, Together rest other cursor partner →
      Agrees rest other (member earlier cursor) (member earlier partner))
    {next : List α → Parser β} (refuses : ∀ values, RefusesEnd (next values))
    (last : ∀ values cursor partner, Together rest other cursor partner →
      Agrees rest other (next values cursor) (next values partner))
    {earlier : List α} {cursor partner : Cursor} (together : Together rest other cursor partner) :
    Agrees rest other ((manyWhile begins member earlier >>= next) cursor)
      ((manyWhile begins member earlier >>= next) partner) := by
  have inside : ∀ {kind : TokenKind}, begins kind = true → kind ≠ .endOfFile := by
    rintro _ begun rfl
    rw [ends] at begun
    cases begun
  induction size : cursor.remaining using Nat.strong_induction_on
    generalizing cursor partner earlier next with
  | _ size ih =>
    subst size
    cases together with
    | ended isEnd empty => exact (refusesEnd_manyWhile ends refuses).agrees isEnd empty _
    | alike alike =>
      rw [manyWhile_then_eq, manyWhile_then_eq, ← alike.current]
      by_cases begun : begins cursor.current.kind = true
      · rw [if_pos begun, if_pos begun]
        have first := each earlier cursor partner (.alike alike)
        generalize member earlier cursor = answer at first ⊢
        generalize member earlier partner = counterpart at first ⊢
        cases first with
        | error => exact .error
        | provisional mayChange => exact .provisional mayChange
        | @ok value after behind stillTogether =>
          dsimp only
          cases stillTogether with
          | ended isEnd empty =>
            rw [if_pos (remaining_lt_of_ended isEnd empty (inside begun))]
            exact (refusesEnd_manyWhile ends fun values => refuses (value :: values)).agrees
              isEnd empty _
          | alike left =>
            -- both cursors pass the same items, so the member makes progress on both or on none
            have before := alike.remaining
            have behindMember := left.remaining
            by_cases fewer : after.remaining < cursor.remaining
            · rw [if_pos fewer, if_pos (by omega)]
              exact ih _ fewer (fun values => refuses (value :: values))
                (fun values => last (value :: values)) (.alike left) rfl
            · rw [if_neg fewer, if_neg (by omega)]
              exact last [value] after behind (.alike left)
      · rw [if_neg begun, if_neg begun]
        exact last [] cursor partner (.alike alike)

/-! ### Parsers in step -/

/-- **What is put together from steps agrees on two sources** in front of the same items, and at
the end of the first source if it is built over that end. -/
theorem Built.agrees_in_step (edge : Edge rest other) {overEnd : Bool} {reader : Parser α}
    (built : Built overEnd reader) :
    (∀ cursor partner, Alike rest other cursor partner →
      Agrees rest other (reader cursor) (reader partner)) ∧
    (overEnd = true → ∀ cursor partner, Together rest other cursor partner →
      Agrees rest other (reader cursor) (reader partner)) := by
  induction built with
  | pure value => exact ⟨fun _ _ alike => .ok (.alike alike), fun _ _ _ together => .ok together⟩
  | throw _ => exact ⟨fun _ _ _ => .error, fun _ _ _ _ => .error⟩
  | advance => exact ⟨fun _ _ alike => agrees_advance edge alike, nofun⟩
  | @look _ next _ ih =>
    refine ⟨fun cursor partner alike => ?_, nofun⟩
    show Agrees rest other (next cursor.current cursor) (next partner.current partner)
    rw [← alike.current]
    exact (ih cursor.current).1 cursor partner alike
  | bind _ _ first others =>
    refine ⟨fun cursor partner alike => ?_, fun isClosed cursor partner together => ?_⟩
    · exact agrees_bind (first.1 cursor partner alike) fun value => (others value).2 rfl
    · exact agrees_bind (first.2 isClosed cursor partner together) fun value =>
        (others value).2 rfl
  | @repeated _ _ begins member earlier next ends _ _ refuses each others =>
    have agrees : ∀ cursor partner, Together rest other cursor partner →
        Agrees rest other ((manyWhile begins member earlier >>= next) cursor)
          ((manyWhile begins member earlier >>= next) partner) := fun _ _ =>
      agrees_manyWhile_then ends (fun earlier => (each earlier).2 rfl) refuses
        fun values => (others values).2 rfl
    exact ⟨fun cursor partner alike => agrees cursor partner (.alike alike), fun _ => agrees⟩
  | refusing _ refuses ih =>
    refine ⟨ih.1, fun _ cursor partner together => ?_⟩
    cases together with
    | alike alike => exact ih.1 cursor partner alike
    | ended isEnd empty => exact refuses.agrees isEnd empty _
  | inside _ ih => exact ⟨ih.1, nofun⟩

/-- The errors of declarations are kept where something else stands behind the same items. -/
theorem declarations_error_kept (edge : Edge rest other) {cursor partner last : Cursor}
    {error : ParseError} (together : Together rest other cursor partner)
    (failed : manyWhile (· ≠ .endOfFile) declaration [] cursor = .error error last)
    (settled : ¬ error.Provisional) :
    ∃ behind, manyWhile (· ≠ .endOfFile) declaration [] partner = .error error behind := by
  -- with something behind them that refuses the end, declarations are put together from steps
  let refused : Parser Unit := manyWhile (· ≠ .endOfFile) declaration [] >>= fun _ =>
    refuse .declaration
  have built : Built true refused :=
    .repeated rfl built_declaration (fun _ => .refusing (built_refuse _) fun _ _ => ⟨_, _, _, rfl⟩)
      fun _ _ _ => ⟨_, _, _, rfl⟩
  have agrees := (built.agrees_in_step edge).2 rfl cursor partner together
  have isError : refused cursor = .error error last := bind_error_iff.mpr (.inl failed)
  rw [isError] at agrees
  generalize isAnswer : refused partner = answer at agrees
  cases agrees with
  | provisional mayChange => exact (settled mayChange).elim
  | @error _ _ behind =>
    rcases bind_error_iff.mp isAnswer with same | ⟨values, after, same, isRefused⟩
    · exact ⟨behind, same⟩
    · -- the declarations of the other source stop at its end
      have isEnd := (declarations_ok_iff.mp same).1
      obtain ⟨⟨kind, place⟩, ahead⟩ := after
      cases isEnd
      cases isRefused
      exact (settled (.ended _ place)).elim

/-- **The errors of a scene are kept** where something else stands behind the same items. -/
theorem scene_error_kept (edge : Edge rest other) {cursor partner last : Cursor}
    {error : ParseError} (together : Together rest other cursor partner)
    (failed : scene cursor = .error error last) (settled : ¬ error.Provisional) :
    ∃ behind, scene partner = .error error behind := by
  rcases bind_error_iff.mp failed with declared | ⟨values, after, _, failed⟩
  · obtain ⟨behind, same⟩ := declarations_error_kept edge together declared settled
    exact ⟨behind, bind_error_iff.mpr (.inl same)⟩
  · -- behind the declarations only a shape may be missing
    cases made : Scene.ofDeclarations values with
    | ok scene =>
      rw [made] at failed
      cases failed
    | error first =>
      rw [made] at failed
      cases failed
      obtain ⟨statement, _, rfl⟩ := Scene.exists_of_ofDeclarations_error made
      exact (settled (.unknown _ _)).elim

end Parser

/-- The scene of a stream begins with taking the first token, whatever stands in front of it. -/
theorem Scene.ofStream_eq_advance (stream : TokenStream) (token : Token) :
    Scene.ofStream stream =
      match Parser.advance ⟨token, stream⟩ with
      | .ok _ after => (Scene.parseFrom after).1
      | .error error _ => .error error := by
  unfold Scene.ofStream Parser.advance
  cases stream.next with
  | mk item ahead => cases item <;> rfl

theorem Scene.parseFrom_error_iff {cursor : Cursor} {error : ParseError} :
    (Scene.parseFrom cursor).1 = .error error ↔
      ∃ last, Parser.scene cursor = .error error last := by
  unfold Scene.parseFrom
  cases Parser.scene cursor with
  | ok scene last => simp
  | error first last => simp

/-- **Two streams that begin with the same items** are refused for the same reason, if more text
cannot take it back. -/
theorem Scene.ofStream_error_kept (edge : Edge rest other) {stream partner : TokenStream}
    {shared : List Item} {error : ParseError} (ahead : stream.ahead = shared ++ rest)
    (further : partner.ahead = shared ++ other) (failed : Scene.ofStream stream = .error error)
    (settled : ¬ error.Provisional) : Scene.ofStream partner = .error error := by
  let token : Token := ⟨.endOfFile, .point 0⟩
  have alike : Alike rest other ⟨token, stream⟩ ⟨token, partner⟩ := ⟨rfl, shared, ahead, further⟩
  have first := Parser.agrees_advance edge alike
  rw [ofStream_eq_advance stream token] at failed
  rw [ofStream_eq_advance partner token]
  generalize Parser.advance ⟨token, stream⟩ = answer at first failed
  generalize Parser.advance ⟨token, partner⟩ = counterpart at first
  cases first with
  | ok together =>
    obtain ⟨last, refused⟩ := Scene.parseFrom_error_iff.mp failed
    exact Scene.parseFrom_error_iff.mpr (Parser.scene_error_kept edge together refused settled)
  | error => exact failed
  | provisional mayChange =>
    cases failed
    exact (settled mayChange).elim

end InStep

/-! ### Sources -/

/-- The end of a source stands behind all items, so there are but tokens if there are but tokens in
front of it. -/
theorem TokenStream.ahead_eq_of_ended {source : String} {front : List Token} {place : Span}
    {behind : List Item}
    (whole : (ofSource source).all = front.map Item.token ++ .token ⟨.endOfFile, place⟩ :: behind) :
    (ofSource source).ahead = front.map Item.token := by
  have ahead := congrArg List.dropLast whole
  rw [all, List.dropLast_concat, List.dropLast_append_of_ne_nil (List.cons_ne_nil _ _)] at ahead
  cases behind with
  | nil => exact ahead.trans (List.append_nil _)
  | cons next others =>
    have inside : Item.token ⟨.endOfFile, place⟩ ∈ (ofSource source).ahead := by
      rw [ahead]
      exact List.mem_append_right _ List.mem_cons_self
    exact ((spelled_of_mem_itemsFrom inside).ne_endOfFile rfl).elim

namespace Scene

/-- The errors of a source with a fault are settled, unless they tell of that fault. -/
theorem settled_of_fault {source : String} {fault : LexicalError} {error : ParseError}
    (faulty : (TokenStream.ofSource source).tokens = .error fault)
    (failed : parse source = .error error) : error = .lexical fault ∨ ¬ error.Provisional := by
  cases cause_of_parse_error failed with
  | fault same =>
    rw [TokenStream.tokens_eq_error same] at faulty
    cases faulty
    exact .inl rfl
  | @offence front found behind expected whole refuses =>
    refine .inr fun mayChange => ?_
    cases mayChange
    rw [TokenStream.tokens_ok_iff.mpr (TokenStream.ahead_eq_of_ended whole)] at faulty
    cases faulty
  | meaning _ misjudged => exact .inr fun mayChange => by cases misjudged <;> cases mayChange
  | unknown derives _ =>
    rw [SceneTree.Derives, faulty] at derives
    cases derives

/-- **An error is kept** by a source that begins with the same items. -/
theorem parse_error_of_ahead {rest others shared : List Item} (edge : Edge rest others)
    {source partner : String} {error : ParseError}
    (ahead : (TokenStream.ofSource source).ahead = shared ++ rest)
    (further : (TokenStream.ofSource partner).ahead = shared ++ others)
    (failed : parse source = .error error) (settled : ¬ error.Provisional) :
    parse partner = .error error := by
  rw [parse_eq_ofStream] at failed ⊢
  exact ofStream_error_kept edge ahead further failed settled

/-- A fault of a source is kept by more text. -/
theorem parse_lexical_append {source : String} {fault : LexicalError} (other : String)
    (failed : parse source = .error (.lexical fault)) :
    parse (source ++ "\n" ++ other) = .error (.lexical fault) := by
  obtain ⟨front, behind, ahead⟩ :=
    TokenStream.tokens_eq_error_iff.mp (tokens_of_parse_lexical failed)
  have further := TokenStream.ahead_ofSource_append source other
  rw [ahead, List.append_assoc, List.cons_append] at further
  have faulty := TokenStream.tokens_eq_error further
  cases parsed : parse (source ++ "\n" ++ other) with
  | ok scene =>
    obtain ⟨tokens, readable⟩ := tokens_ok_of_parse parsed
    rw [faulty] at readable
    cases readable
  | error error =>
    rcases settled_of_fault faulty parsed with rfl | settled
    · rfl
    · -- the whole is refused at the fault, so the source in front of it is refused for the same
      rw [← failed, parse_error_of_ahead (.inr ⟨_, _, rfl⟩) further ahead parsed settled]

/-- A source that is cut at its first fault has the tokens in front of the fault. -/
theorem exists_cut {source : String} {fault : LexicalError}
    (faulty : (TokenStream.ofSource source).tokens = .error fault) :
    ∃ (front : List Token) (behind : List Item),
      (TokenStream.ofSource source).ahead = front.map Item.token ++ .fault fault :: behind ∧
        (TokenStream.ofSource (String.ofList (slice 0 fault.span.start source.toList))).ahead =
          front.map Item.token ∧
        byteLength (slice 0 fault.span.start source.toList) = fault.span.start := by
  obtain ⟨front, behind, ahead⟩ := TokenStream.tokens_eq_error_iff.mp faulty
  obtain ⟨before, covered, rest, whole, cut⟩ := (munched_itemsFrom 0 source.toList).cut ahead
  have start : fault.span.start = byteLength before := by
    have := congrArg Span.start cut.isSpan
    rwa [Nat.zero_add] at this
  have covers : (Span.mk 0 fault.span.start).Covers source.toList before :=
    ⟨[], covered ++ rest, whole, rfl, by rw [start, byteLength_nil, Nat.zero_add]⟩
  have isBefore : slice 0 fault.span.start source.toList = before := covers.slice_eq
  refine ⟨front, behind, ahead, ?_, ?_⟩
  · rw [isBefore, TokenStream.ofSource, String.toList_ofList]
    exact cut.inFront.eq_itemsFrom
  · rw [isBefore, start]

/-- **The errors of a source depend on the text read so far.** A fault is told whatever stands
behind the source. Any other error is told as well, unless more text may take it back, if what
follows begins with no fault. An error in front of the first fault is told without that fault. -/
theorem parse_error_kept (source other : String) :
    (∀ fault, parse source = .error (.lexical fault) →
      parse (source ++ "\n" ++ other) = .error (.lexical fault)) ∧
    (∀ error, parse source = .error error → ¬ error.Provisional →
      (∀ fault, (TokenStream.ofSource other).next.1 ≠ .fault fault) →
        parse (source ++ "\n" ++ other) = .error error) ∧
    ∀ fault error, (TokenStream.ofSource source).tokens = .error fault →
      parse source = .error error → error.stage = .parsing →
        error.span.stop ≤ fault.span.start ∧
          parse (String.ofList (slice 0 fault.span.start source.toList) ++ "\n" ++ other) =
            .error error := by
  refine ⟨fun fault failed => parse_lexical_append other failed, ?_, ?_⟩
  · intro error failed settled noFault
    refine parse_error_of_ahead (.inl ⟨rfl, ?_⟩) (List.append_nil _).symm
      (TokenStream.ahead_ofSource_append source other) failed settled
    intro fault others same
    obtain ⟨item, more, isAhead, isFault, _⟩ := List.map_eq_cons_iff.mp same
    cases item with
    | token found => cases isFault
    | fault first => exact noFault first (by rw [TokenStream.next, isAhead])
  · intro fault error faulty failed stage
    obtain ⟨front, behind, ahead, inFront, length⟩ := exists_cut faulty
    have settled : ¬ error.Provisional := by
      rcases settled_of_fault faulty failed with rfl | settled
      · cases stage
      · exact settled
    have alone := parse_error_of_ahead (.inr ⟨_, _, rfl⟩) ahead
      (inFront.trans (List.append_nil _).symm) failed settled
    obtain ⟨covered, covers, _⟩ := (cause_of_parse_error alone).pinpoints
    have bound := covers.le.2
    rw [String.toList_ofList, length] at bound
    have further := TokenStream.ahead_ofSource_append
      (String.ofList (slice 0 fault.span.start source.toList)) other
    rw [inFront] at further
    exact ⟨bound, parse_error_of_ahead (.inr ⟨_, _, rfl⟩) ahead further failed settled⟩

/-- A number in the place of a name is refused in front of the fault behind it, and whatever stands
there instead. -/
theorem parse_error_kept_number :
    let source := "shape 5 @"
    let other := "\x7bpencil"
    let fault : LexicalError := ⟨"@", ⟨8, 9⟩⟩
    let error : ParseError := .unexpected .identifier ⟨.integer "5", ⟨6, 7⟩⟩
    (TokenStream.ofSource source).tokens = .error fault ∧ parse source = .error error ∧
      ¬ error.Provisional ∧ parse (source ++ "\n" ++ other) = .error error ∧
      error.span.stop ≤ 8 ∧
      parse (String.ofList (slice 0 8 source.toList) ++ "\n" ++ other) = .error error := by
  intro source other fault error
  have faulty : (TokenStream.ofSource source).tokens = .error fault := by
    simp only [source, fault]
    decide +kernel
  have failed : parse source = .error error := by
    simp only [source, error]
    decide +kernel
  have opens : (TokenStream.ofSource other).next.1 = .token ⟨.mark .leftBrace, ⟨0, 1⟩⟩ := by
    simp only [other]
    decide +kernel
  have settled : ¬ error.Provisional := by
    intro mayChange
    simp only [error] at mayChange
    cases mayChange
  obtain ⟨_, further, cut⟩ := parse_error_kept source other
  have kept := further error failed settled fun fault isFault => by
    rw [opens] at isFault
    cases isFault
  exact ⟨faulty, failed, settled, kept, cut fault error faulty failed rfl⟩

end Scene

end TurtleScene
