/-
**Why a source has no scene.**

An error of the parser has one of four causes in the source: a fault of its text, a token with which
no scene goes on, a number or a shape among its tokens that means nothing, or a draw statement that
names no shape. The cause is found among the items of the source, and nothing in front of it is
wrong with the grammar.

* `Reads.split` — what a cursor moves over are items of the source, and its end over and over.
* `Scene.Cause` — an error, by its cause among the items of the source.
* **`Scene.cause_of_parse_error`** — every error of the parser has a cause.
* `Scene.tokens_of_parse_lexical`, `Scene.tokens_ok_of_parse` — what follows for the tokens of the
  source.
-/

import TurtleScene.Proofs.Exactness
import TurtleScene.Proofs.Extent
import TurtleScene.Proofs.Refusal

namespace TurtleScene

/-! ### The items of a source -/

namespace TokenStream

/-- The token that is read next stands in front of all others. -/
theorem all_eq_of_next {stream after : TokenStream} {found : Token}
    (isNext : stream.next = (.token found, after)) :
    ∃ behind, stream.all = Item.token found :: behind := by
  rcases next_eq_token isNext with ⟨empty, isEnd, _⟩ | ⟨others, isFirst, _⟩
  · exact ⟨[], by rw [all, empty, isEnd, List.nil_append]⟩
  · exact ⟨others ++ [Item.token stream.endToken], by rw [all, isFirst, List.cons_append]⟩

/-- A fault behind tokens is what the tokens of a source are refused for. -/
theorem tokens_eq_error {stream : TokenStream} {front : List Token} {error : LexicalError}
    {behind : List Item} (same : stream.ahead = front.map Item.token ++ .fault error :: behind) :
    stream.tokens = .error error := by
  rw [tokens, same, List.append_assoc, List.cons_append]
  refine mapM_error_of_first ?_ rfl
  intro item member
  obtain ⟨token, _, rfl⟩ := List.mem_map.mp member
  exact ⟨token, rfl⟩

/-- Items are tokens up to the first fault, if there is one. -/
theorem exists_tokens_or_fault (items : List Item) :
    (∃ tokens : List Token, items = tokens.map Item.token) ∨
      ∃ (front : List Token) (error : LexicalError) (behind : List Item),
        items = front.map Item.token ++ .fault error :: behind := by
  induction items with
  | nil => exact .inl ⟨[], rfl⟩
  | cons item others ih =>
    cases item with
    | fault error => exact .inr ⟨[], error, others, rfl⟩
    | token first =>
      rcases ih with ⟨tokens, rfl⟩ | ⟨front, error, behind, rfl⟩
      · exact .inl ⟨first :: tokens, rfl⟩
      · exact .inr ⟨first :: front, error, behind, rfl⟩

/-- **A source is refused for the first of its faults.** -/
theorem tokens_eq_error_iff {stream : TokenStream} {error : LexicalError} :
    stream.tokens = .error error ↔ ∃ (front : List Token) (behind : List Item),
      stream.ahead = front.map Item.token ++ .fault error :: behind := by
  refine ⟨fun refused => ?_, fun ⟨front, behind, same⟩ => tokens_eq_error same⟩
  rcases exists_tokens_or_fault stream.ahead with ⟨tokens, same⟩ | ⟨front, first, behind, same⟩
  · rw [tokens_ok_iff.mpr same] at refused
    cases refused
  · rw [tokens_eq_error same] at refused
    cases refused
    exact ⟨front, behind, same⟩

end TokenStream

/-- **What a cursor moves over**: items of the source, and behind the last one its end over and
over. -/
theorem Reads.split {stream : TokenStream} {cursor stop : Cursor} {read : List Token}
    (starts : stream.next = (.token cursor.current, cursor.ahead))
    (reads : Reads cursor read stop) :
    ∃ (taken : List Token) (rest : TokenStream) (count : Nat),
      stream.ahead = taken.map Item.token ++ rest.ahead ∧ rest.length = stream.length ∧
        rest.next = (.token stop.current, stop.ahead) ∧
          read = taken ++ List.replicate count stream.endToken := by
  induction read generalizing stream cursor with
  | nil =>
    cases reads
    exact ⟨[], stream, 0, rfl, rfl, starts, rfl⟩
  | cons token others ih =>
    have isCurrent := reads.current_eq
    obtain ⟨after, taken, behind⟩ := reads
    have further := (Parser.advance_ok_iff.mp taken).2
    rcases TokenStream.next_eq_token starts with ⟨empty, isEnd, same⟩ | ⟨items, isFirst, same⟩
    · -- at the end of the source the cursor stays where it is
      rw [same] at further
      obtain ⟨taken, rest, count, front, length, isNext, rfl⟩ := ih further behind
      rw [empty] at front
      obtain ⟨noneTaken, _⟩ := List.append_eq_nil_iff.mp front.symm
      rw [List.map_eq_nil_iff] at noneTaken
      rw [← isCurrent, isEnd, noneTaken]
      exact ⟨[], rest, count + 1, by rw [empty, front, noneTaken], length, isNext, rfl⟩
    · obtain ⟨taken, rest, count, front, length, isNext, rfl⟩ := ih further behind
      rw [same] at front length ⊢
      refine ⟨token :: taken, rest, count, ?_, length, isNext, rfl⟩
      rw [isFirst, ← isCurrent, List.map_cons, List.cons_append]
      exact congrArg _ front

/-- A fault that a cursor meets stands behind tokens of the source. -/
theorem Reads.fault_behind {stream ahead : TokenStream} {cursor stop : Cursor} {read : List Token}
    {error : LexicalError} (starts : stream.next = (.token cursor.current, cursor.ahead))
    (reads : Reads cursor read stop) (isFault : stop.ahead.next = (.fault error, ahead)) :
    ∃ (front : List Token) (behind : List Item),
      stream.ahead = front.map Item.token ++ .fault error :: behind := by
  obtain ⟨taken, rest, count, front, _, isNext, _⟩ := reads.split starts
  rcases TokenStream.next_eq_token isNext with ⟨_, _, same⟩ | ⟨others, isFirst, same⟩
  · rw [same, isNext] at isFault
    cases isFault
  · rw [same] at isFault
    cases others with
    | nil => cases isFault
    | cons item behind =>
      cases isFault
      refine ⟨taken ++ [stop.current], behind, ?_⟩
      rw [front, isFirst, List.map_append, List.append_assoc]
      rfl

/-! ### The sentences of the grammar -/

/-- A sentence with the end of the source behind it holds that end nowhere else. -/
theorem endOfFile_notMem_of_refuses {front : List TokenKind} {kind : TokenKind}
    (refuses : Refuses (words SceneTree.tokens * terminal .endOfFile) front kind) :
    .endOfFile ∉ front := by
  intro member
  obtain ⟨behind, whole, _⟩ := refuses.viable
  rcases List.eq_nil_or_concat behind with rfl | ⟨others, last, rfl⟩
  · rw [List.append_nil] at whole
    exact refuses.stuck front whole [] (List.prefix_append _ _)
  · obtain ⟨_, ⟨tree, rfl⟩, _, rfl, same⟩ := whole
    have inside : kinds tree.tokens = front ++ others := by
      rw [List.concat_eq_append, ← List.append_assoc] at same
      exact (List.append_inj' same rfl).1
    have inTree : .endOfFile ∈ kinds tree.tokens := by
      rw [inside]
      exact List.mem_append_left others member
    obtain ⟨token, inTokens, isEnd⟩ := List.mem_map.mp inTree
    exact tree.covers.inside token inTokens isEnd

/-! ### Causes -/

namespace Scene

/-- **An error of a source, by its cause** among the items of the source. -/
inductive Cause (source : String) : ParseError → Prop
  /-- A fault with nothing but tokens in front of it. -/
  | fault {front : List Token} {error : LexicalError} {behind : List Item} :
      (TokenStream.ofSource source).ahead = front.map Item.token ++ .fault error :: behind →
      Cause source (.lexical error)
  /-- A token with which no scene goes on, with nothing but tokens in front of it. -/
  | offence {front : List Token} {found : Token} {behind : List Item} (expected : Expectation) :
      (TokenStream.ofSource source).all = front.map Item.token ++ .token found :: behind →
      Refuses (words SceneTree.tokens * terminal .endOfFile) (kinds front) found.kind →
      Cause source (.unexpected expected found)
  /-- What some of the tokens mean. -/
  | meaning {read : List Token} {error : ParseError} :
      (∀ token ∈ read, Item.token token ∈ (TokenStream.ofSource source).all) →
      Misjudged read error → Cause source error
  /-- A draw statement of a source that follows the grammar. -/
  | unknown {tree : SceneTree} {statement : DrawTree} : tree.Derives source →
      statement ∈ tree.draws →
      Cause source (.unknownShape statement.name statement.namePlace)

/-- What is blamed from the first token on is a cause in the source. -/
theorem Cause.of_blamed {source : String} {cursor : Cursor} {error : ParseError}
    (starts : Cursor.ofSource source = .ok cursor)
    (blamed : Blamed (words SceneTree.tokens * terminal .endOfFile) cursor error) :
    Cause source error := by
  have first := Cursor.ofSource_ok_iff.mp starts
  cases blamed with
  | fault reads isFault =>
    obtain ⟨front, behind, same⟩ := reads.fault_behind first isFault
    exact .fault same
  | @offence read stop expected reads refuses =>
    obtain ⟨taken, rest, count, front, length, isNext, rfl⟩ := reads.split first
    obtain ⟨behind, inRest⟩ := TokenStream.all_eq_of_next isNext
    have isEnd : rest.endToken = (TokenStream.ofSource source).endToken := by
      rw [TokenStream.endToken, length]
      rfl
    -- nothing is refused behind the end of the source
    have never := endOfFile_notMem_of_refuses refuses
    have none : count = 0 := by
      by_contra some
      refine never (List.mem_map.mpr ⟨(TokenStream.ofSource source).endToken, ?_, rfl⟩)
      exact List.mem_append_right _ (List.mem_replicate.mpr ⟨some, rfl⟩)
    rw [none, List.replicate_zero, List.append_nil] at refuses
    have whole : (TokenStream.ofSource source).all =
        taken.map Item.token ++ .token stop.current :: behind := by
      rw [TokenStream.all, front, List.append_assoc, ← isEnd]
      exact congrArg _ inRest
    exact .offence expected whole refuses
  | meaning reads misjudged =>
    obtain ⟨taken, rest, count, front, _, _, rfl⟩ := reads.split first
    refine .meaning (fun token member => TokenStream.mem_all.mpr ?_) misjudged
    rcases List.mem_append.mp member with inTaken | atEnd
    · left
      rw [front]
      exact List.mem_append_left _ (List.mem_map_of_mem inTaken)
    · exact .inr (congrArg Item.token (List.eq_of_mem_replicate atEnd))

/-- A source whose declarations are refused has a cause for it. -/
theorem cause_of_declarations_error {source : String} {error : ParseError}
    (failed : Scene.declarations source = .error error) : Cause source error := by
  unfold Scene.declarations at failed
  cases starts : Cursor.ofSource source with
  | error fault =>
    rw [starts] at failed
    cases failed
    unfold Cursor.ofSource TokenStream.next at starts
    cases items : (TokenStream.ofSource source).ahead with
    | nil => rw [items] at starts; cases starts
    | cons item others =>
      rw [items] at starts
      cases item with
      | token found => cases starts
      | fault first =>
        cases starts
        have atFront : [].map Item.token ++ Item.fault fault :: others = .fault fault :: others :=
          rfl
        exact .fault (items.trans atFront.symm)
  | ok cursor =>
    rw [starts] at failed
    dsimp only at failed
    split at failed
    · cases failed
    · rename_i error last stopped
      cases failed
      exact .of_blamed starts
        (Parser.parses_declarations.blames (Parser.bind_error_iff.mpr (.inl stopped)))

/-- A draw statement that names no shape is refused by the place of the name. -/
theorem exists_of_ofDeclarations_error {values : List Declaration} {error : ParseError}
    (failed : Scene.ofDeclarations values = .error error) :
    ∃ statement ∈ values.filterMap Declaration.draw?,
      error = .unknownShape statement.shapeName statement.nameSpan := by
  unfold Scene.ofDeclarations at failed
  dsimp only at failed
  cases resolved : (values.filterMap Declaration.draw?).mapM
      (DrawStatement.resolve (values.filterMap Declaration.shape?)) with
  | ok draws =>
    rw [resolved] at failed
    cases failed
  | error first =>
    rw [resolved] at failed
    cases failed
    obtain ⟨statement, member, missing⟩ := exists_error_of_mapM resolved
    refine ⟨statement, member, ?_⟩
    unfold DrawStatement.resolve at missing
    split at missing
    · cases missing
    · cases missing
      rfl

/-- **Every error of the parser has a cause.** -/
theorem cause_of_parse_error {source : String} {error : ParseError}
    (failed : Scene.parse source = .error error) : Cause source error := by
  rw [Scene.parse_eq] at failed
  cases declared : Scene.declarations source with
  | error first =>
    rw [declared] at failed
    cases failed
    exact cause_of_declarations_error declared
  | ok values =>
    rw [declared] at failed
    obtain ⟨statement, member, rfl⟩ := exists_of_ofDeclarations_error failed
    obtain ⟨tree, derives, _, _, rfl⟩ := Scene.declarations_ok_iff.mp declared
    rw [tree.filterMap_draw?] at member
    obtain ⟨drawn, inTree, rfl⟩ := List.mem_map.mp member
    exact .unknown derives inTree

/-! ### The tokens of a refused source -/

/-- **A fault that the parser meets is the first one of the text.** -/
theorem tokens_of_parse_lexical {source : String} {error : LexicalError}
    (failed : Scene.parse source = .error (.lexical error)) :
    (TokenStream.ofSource source).tokens = .error error := by
  generalize isError : ParseError.lexical error = cause at failed
  cases cause_of_parse_error failed with
  | fault same =>
    cases isError
    exact TokenStream.tokens_eq_error same
  | offence => cases isError
  | meaning _ misjudged => cases misjudged <;> cases isError
  | unknown => cases isError

/-- A source with a scene has no fault. -/
theorem tokens_ok_of_parse {source : String} {scene : Scene}
    (parsed : Scene.parse source = .ok scene) :
    ∃ tokens, (TokenStream.ofSource source).tokens = .ok tokens := by
  obtain ⟨values, declared, _⟩ := Scene.parse_ok_iff.mp parsed
  obtain ⟨tree, derives, _⟩ := Scene.declarations_ok_iff.mp declared
  exact ⟨_, derives⟩

end Scene

end TurtleScene
