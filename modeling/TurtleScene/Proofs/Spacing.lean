/-
**What stands between tokens.**

A newline sets the lexer back to its beginning, whatever stands in front of it: the text behind it
is read as if it were a source of its own. Between tokens, blank space and comments that end with
their lines do the same, so the tokens of a source may be set apart in any way and stay what they
are.

* `TokenStream.answers_append_newline` — two sources with a newline between them give what each of
  them gives.
* `Spacing` — blank space and comments in a row. It leaves no items behind (`itemsFrom_spacing`).
* `Separates`, `Lexeme.first_append_separator` — a character in front of which every token stops.
* `Spaced` — stretches in a row, with spacing behind each of them.
* **`TokenStream.spells_spaced`** — the stretches of the tokens of a source, spaced anew, spell the
  same tokens.
-/

import TurtleScene.Proofs.Adjacency
import TurtleScene.Proofs.Coverage

namespace TurtleScene

open Text

/-! ### A newline between sources -/

/-- The end of two sources with a newline between them is the end of the second one. -/
theorem TokenStream.endToken_append (source other : String) :
    (ofSource (source ++ "\n" ++ other)).endToken =
      (ofSource other).endToken.mapSpans (Span.shift (source.utf8ByteSize + 1)) := by
  have length : byteLength (source ++ "\n" ++ other).toList =
      byteLength other.toList + (source.utf8ByteSize + 1) := by
    rw [byteLength_toList, byteLength_toList, String.utf8ByteSize_append,
      String.utf8ByteSize_append, Nat.add_comm]
    rfl
  show Token.mk .endOfFile (Span.point (byteLength (source ++ "\n" ++ other).toList)) = _
  rw [length]
  rfl

/-- **A newline sets the lexer back.** Two sources with a newline between them give the items of the
first source, the end of which does not show, and then all that the second source gives, its end
included, further along by the first source and the newline. -/
theorem TokenStream.answers_append_newline (source other : String) :
    ∃ items, (ofSource source).Gives items ∧
      (∀ token, Item.token token ∈ items → token.kind ≠ .endOfFile) ∧
      ∀ count, (ofSource (source ++ "\n" ++ other)).answers (items.length + count) =
        items ++ ((ofSource other).answers count).map
          (Item.mapSpans (Span.shift (source.utf8ByteSize + 1))) := by
  refine ⟨(ofSource source).ahead, gives_ahead _, fun token member =>
    (spelled_of_mem_itemsFrom member).ne_endOfFile, fun count => ?_⟩
  have isEnd : Item.token (ofSource (source ++ "\n" ++ other)).endToken =
      (Item.token (ofSource other).endToken).mapSpans (Span.shift (source.utf8ByteSize + 1)) :=
    congrArg Item.token (endToken_append source other)
  rw [answers_eq, answers_eq, ahead_ofSource_append, byteLength_toList, isEnd, List.append_assoc,
    List.take_length_add_append, List.map_take, List.map_append, List.map_replicate]
  simp only [List.take_append, List.take_replicate]
  congr 3
  omega

/-! ### Spacing -/

/-- **Blank space and comments in a row**, each comment with the newline that ends it. -/
inductive Spacing : List Char → Prop
  | done : Spacing []
  | blank {word rest : List Char} : word ∈ Pattern.blank.language → Spacing rest →
      Spacing (word ++ rest)
  | comment {word rest : List Char} : word ∈ Pattern.comment.language → Spacing rest →
      Spacing (word ++ '\n' :: rest)

/-- A comment leaves no items behind. -/
theorem itemsFrom_comment {word : List Char} (comment : word ∈ Pattern.comment.language)
    (offset : Nat) : itemsFrom offset word = [] := by
  obtain ⟨tail, inLine, rfl⟩ := Pattern.mem_comment.mp comment
  have each : ∀ character ∈ '/' :: tail, isLinePart character = true :=
    List.forall_mem_cons.mpr ⟨by decide, inLine⟩
  rw [itemsFrom_cons, Lexeme.first_slashes, Lexeme.run, List.dropWhile_eq_nil_iff.mpr each,
    itemsFrom_nil]
  rfl

/-- **Spacing leaves no items behind**, and the text behind it is read on its own. -/
theorem itemsFrom_spacing {gap : List Char} (spacing : Spacing gap) (offset : Nat)
    (text : List Char) :
    itemsFrom offset (gap ++ text) = itemsFrom (offset + byteLength gap) text := by
  induction spacing generalizing offset with
  | done => rfl
  | blank blank _ ih =>
    rw [List.append_assoc, itemsFrom_append_blanks (Pattern.mem_blank.mp blank).2, ih,
      byteLength_append, Nat.add_assoc]
  | comment comment _ ih =>
    rw [List.append_assoc, List.cons_append, itemsFrom_append_newline, itemsFrom_comment comment,
      List.nil_append, ih, byteLength_append, byteLength_cons]
    congr 1
    show _ + 1 + _ = _ + (_ + (1 + _))
    omega

/-! ### Characters that separate -/

/-- The characters with which spacing begins. -/
def Separates (character : Char) : Prop := isBlank character = true ∨ character = '/'

/-- A character that separates belongs to no class of which a token could have more. -/
theorem Separates.outside {character : Char} (separates : Separates character) :
    isWordPart character = false ∧ character.isDigit = false ∧ character.isAlphanum = false ∧
      character ≠ '.' := by
  have listed : character ∈ [' ', '\t', '\n', '\r', '\x0c', '/'] := by
    simpa [Separates, isBlank, or_assoc] using separates
  have each : [' ', '\t', '\n', '\r', '\x0c', '/'].all (fun character =>
      !isWordPart character && !character.isDigit && !character.isAlphanum &&
        character != '.') := by
    decide
  simpa [and_assoc] using List.all_eq_true.mp each character listed

/-- Spacing is empty, or begins with a character that separates. -/
theorem Spacing.eq_nil_or {gap : List Char} (spacing : Spacing gap) :
    gap = [] ∨ ∃ stop more, gap = stop :: more ∧ Separates stop := by
  cases spacing with
  | done => exact .inl rfl
  | blank blank _ =>
    obtain ⟨nonempty, each⟩ := Pattern.mem_blank.mp blank
    obtain ⟨head, tail, rfl⟩ := List.exists_cons_of_ne_nil nonempty
    exact .inr ⟨head, _, rfl, .inl (each head List.mem_cons_self)⟩
  | comment comment _ =>
    obtain ⟨tail, _, rfl⟩ := Pattern.mem_comment.mp comment
    exact .inr ⟨'/', _, rfl, .inr rfl⟩

namespace Lexeme

/-- A slash begins a comment or is a fault. -/
theorem first_slash_ne_token (tail : List Char) (kind : TokenKind) :
    (first '/' tail).reading ≠ .token kind := by
  have slash : first '/' tail = if '/' = '/' ∧ tail.head? = some '/' then
      run (fun _ => .blank) isLinePart '/' tail else ⟨.fault, ['/'], tail⟩ := rfl
  rw [slash]
  split <;> exact Reading.noConfusion

/-- A text that is a token on its own is one in front of a character that separates. -/
theorem first_append_separator {head stop : Char} {tail : List Char} {kind : TokenKind}
    (alone : first head tail = ⟨.token kind, head :: tail, []⟩) (separates : Separates stop)
    (more : List Char) :
    first head (tail ++ stop :: more) = ⟨.token kind, head :: tail, stop :: more⟩ := by
  obtain ⟨noWordPart, noDigit, noAlphanum, noPoint⟩ := separates.outside
  suffices stopped : first head (tail ++ stop :: more) =
      (first head tail).followedBy (stop :: more) by
    rw [stopped, alone]
    rfl
  have isToken : (first head tail).reading = .token kind := by rw [alone]
  have noSlash : head ≠ '/' := by
    rintro rfl
    exact first_slash_ne_token tail kind isToken
  unfold first at isToken ⊢
  simp only [noSlash, false_and, if_false] at isToken ⊢
  split_ifs at isToken ⊢
  · cases isToken
  · exact run_append_stop _ noWordPart head tail more
  · exact number_append_stop noDigit noPoint head tail more
  · exact run_append_stop _ noAlphanum head tail more
  · refine quoted_append (fun none => ?_) _
    rw [quoted, none] at isToken
    cases isToken
  · cases Mark.ofCharacter? head <;> rfl

/-- The only item of a text, if it is a token as long as the text, is its first lexeme. -/
theorem first_of_alone {head : Char} {tail : List Char} {kind : TokenKind}
    (alone : itemsFrom 0 (head :: tail) = [.token ⟨kind, ⟨0, byteLength (head :: tail)⟩⟩]) :
    first head tail = ⟨.token kind, head :: tail, []⟩ := by
  have whole := covered_append_rest head tail
  have length := congrArg byteLength whole
  have nonempty := byteLength_pos (covered_ne_nil head tail)
  rw [byteLength_append] at length
  rw [itemsFrom_cons] at alone
  generalize first head tail = lexeme at *
  obtain ⟨reading, covered, rest⟩ := lexeme
  cases reading with
  | blank =>
    -- the item would begin behind the blank space
    have member : Item.token ⟨kind, ⟨0, byteLength (head :: tail)⟩⟩ ∈
        itemsFrom (0 + byteLength covered) rest := by
      have same : itemsFrom (0 + byteLength covered) rest = _ := alone
      rw [same]
      exact List.mem_singleton_self _
    have bounds := ((munched_itemsFrom _ _).bounds member).1
    simp only [Item.span] at bounds nonempty
    omega
  | token found =>
    obtain ⟨isToken, _⟩ := List.cons.inj alone
    simp only [Item.token.injEq, Token.mk.injEq, Span.mk.injEq, true_and] at isToken
    obtain ⟨rfl, stop⟩ := isToken
    have noRest : rest = [] := by
      by_contra some
      have := byteLength_pos some
      simp only at length stop
      omega
    subst noRest
    rw [← whole, List.append_nil]
  | fault => cases (List.cons.inj alone).1

end Lexeme

/-! ### Tokens on their own -/

/-- **A stretch is a token on its own**, of a kind. -/
def IsToken (kind : TokenKind) (stretch : List Char) : Prop :=
  ∃ head tail, stretch = head :: tail ∧
    Lexeme.first head tail = ⟨.token kind, head :: tail, []⟩

/-- A token in front of spacing, or of the end, is read on its own. -/
theorem IsToken.itemsFrom_append {kind : TokenKind} {stretch gap : List Char}
    (isToken : IsToken kind stretch) (spacing : Spacing gap) (offset : Nat) {text : List Char}
    (apart : gap = [] → text = []) :
    itemsFrom offset (stretch ++ (gap ++ text)) =
      .token ⟨kind, ⟨offset, offset + byteLength stretch⟩⟩ ::
        itemsFrom (offset + byteLength stretch + byteLength gap) text := by
  obtain ⟨head, tail, rfl, alone⟩ := isToken
  rw [← itemsFrom_spacing spacing]
  rcases spacing.eq_nil_or with rfl | ⟨stop, more, rfl, separates⟩
  · rw [apart rfl, List.append_nil, List.append_nil, itemsFrom_cons, alone]
    rfl
  · rw [List.cons_append, List.cons_append, itemsFrom_cons,
      Lexeme.first_append_separator alone separates]
    rfl

/-- The stretch of a token of a source is this token on its own. -/
theorem TokenStream.isToken_slice {source : String} {token : Token}
    (member : Item.token token ∈ (ofSource source).ahead) :
    IsToken token.kind (slice token.span.start token.span.stop source.toList) := by
  have munched := munched_itemsFrom 0 source.toList
  have covers := covers_of_mem_all (mem_all.mpr (.inl member))
  have alone := munched.alone member
  have bounds := munched.bounds member
  have isSlice := covers.slice_eq
  obtain ⟨_, _, _, start, stop⟩ := covers
  simp only [Item.span] at isSlice alone bounds start stop
  rw [isSlice] at alone ⊢
  have length : token.span.length = byteLength (Item.token token).text.toList := by
    rw [Span.length]
    omega
  cases text : (Item.token token).text.toList with
  | nil =>
    rw [text] at stop
    simp only [byteLength_nil] at stop
    omega
  | cons head tail =>
    rw [text] at alone length
    refine ⟨head, tail, rfl, Lexeme.first_of_alone (alone.trans ?_)⟩
    rw [← length]
    rfl

/-! ### Tokens with spacing between them -/

/-- **Stretches in a row with spacing behind each of them.** It may be empty behind the last one
only. -/
inductive Spaced : List (List Char) → List Char → Prop
  | done : Spaced [] []
  | behind {stretch gap text : List Char} {stretches : List (List Char)} : Spacing gap →
      (stretches ≠ [] → gap ≠ []) → Spaced stretches text →
      Spaced (stretch :: stretches) (stretch ++ (gap ++ text))

/-- **Spaced tokens are read one by one.** -/
theorem Spaced.exists_tokens {words : List (TokenKind × List Char)} {text : List Char}
    (spaced : Spaced (words.map Prod.snd) text) (each : ∀ word ∈ words, IsToken word.1 word.2)
    (offset : Nat) :
    ∃ tokens : List Token, itemsFrom offset text = tokens.map Item.token ∧
      kinds tokens = words.map Prod.fst := by
  induction words generalizing offset text with
  | nil =>
    cases spaced
    exact ⟨[], itemsFrom_nil offset, rfl⟩
  | cons word others ih =>
    obtain ⟨isToken, each⟩ := List.forall_mem_cons.mp each
    cases spaced with
    | @behind _ gap text _ spacing apart further =>
      have ends : gap = [] → text = [] := by
        intro none
        have noOthers : others.map Prod.snd = [] := not_not.mp fun some => apart some none
        rw [noOthers] at further
        cases further
        rfl
      obtain ⟨tokens, isTokens, isKinds⟩ :=
        ih further each (offset + byteLength word.2 + byteLength gap)
      refine ⟨⟨word.1, ⟨offset, offset + byteLength word.2⟩⟩ :: tokens, ?_, ?_⟩
      · rw [isToken.itemsFrom_append spacing offset ends, isTokens]
        rfl
      · rw [List.map_cons, ← isKinds]
        rfl

/-- **The tokens of a source may be set apart in any way.** Take the stretches of the tokens of a
source without faults, in their order. With spacing around and between them, which is empty nowhere
between two of them, they are a source without faults whose tokens are of the same kinds and carry
the same texts. -/
theorem TokenStream.spells_spaced {source : String} {tokens : List Token} {lead text : List Char}
    (lexes : (ofSource source).tokens = .ok (tokens ++ [(ofSource source).endToken]))
    (spacing : Spacing lead)
    (spaced : Spaced (tokens.map fun token =>
      slice token.span.start token.span.stop source.toList) text) :
    Spells (String.ofList (lead ++ text)) (kinds tokens) := by
  have ahead := tokens_ok_iff.mp lexes
  let words := tokens.map fun token =>
    (token.kind, slice token.span.start token.span.stop source.toList)
  have each : ∀ word ∈ words, IsToken word.1 word.2 := by
    intro word member
    obtain ⟨token, inSource, rfl⟩ := List.mem_map.mp member
    refine isToken_slice ?_
    rw [ahead]
    exact List.mem_map_of_mem inSource
  have stretches : words.map Prod.snd = tokens.map fun token =>
      slice token.span.start token.span.stop source.toList := by
    rw [List.map_map]
    rfl
  obtain ⟨others, isOthers, isKinds⟩ :=
    Spaced.exists_tokens (stretches ▸ spaced) each (0 + byteLength lead)
  refine spells_iff.mpr ⟨others, ?_, ?_⟩
  · show itemsFrom 0 (String.ofList (lead ++ text)).toList = _
    rw [String.toList_ofList, itemsFrom_spacing spacing, isOthers]
  · rw [isKinds, List.map_map]
    rfl

/-- Comments between tokens that hold quotes, digits and slashes, and a quoted text that holds
slashes. -/
theorem TokenStream.spells_spaced_comments :
    let source := "shape\"//\"1;"
    let word : List TokenKind := [.keyword .shape, .string "//", .integer "1", .mark .semicolon]
    Spells source word ∧ Spells "\tshape// \"one\n\"//\" 1//.5\n;" word := by
  intro source word
  let tokens : List Token := [⟨.keyword .shape, ⟨0, 5⟩⟩, ⟨.string "//", ⟨5, 9⟩⟩,
    ⟨.integer "1", ⟨9, 10⟩⟩, ⟨.mark .semicolon, ⟨10, 11⟩⟩]
  have lexes : (ofSource source).tokens = .ok (tokens ++ [(ofSource source).endToken]) := by
    decide +kernel
  have slices : (tokens.map fun token => slice token.span.start token.span.stop source.toList) =
      [['s', 'h', 'a', 'p', 'e'], ['"', '/', '/', '"'], ['1'], [';']] := by
    decide +kernel
  have blank : ∀ character, isBlank character = true → Spacing [character] := by
    intro character isBlank
    have word : [character] ∈ Pattern.blank.language :=
      Pattern.mem_blank.mpr ⟨List.cons_ne_nil _ _, List.forall_mem_singleton.mpr isBlank⟩
    exact .blank word .done
  have comment : ∀ text : List Char, text.all isLinePart = true →
      Spacing (('/' :: '/' :: text) ++ ['\n']) := fun text inLine =>
    .comment (Pattern.mem_comment.mpr ⟨text, List.all_eq_true.mp inLine, rfl⟩) .done
  have spaced : Spaced [['s', 'h', 'a', 'p', 'e'], ['"', '/', '/', '"'], ['1'], [';']] _ :=
    .behind (comment [' ', '"', 'o', 'n', 'e'] (by decide)) (fun _ => List.cons_ne_nil _ _)
      (.behind (blank ' ' rfl) (fun _ => List.cons_ne_nil _ _)
        (.behind (comment ['.', '5'] (by decide)) (fun _ => List.cons_ne_nil _ _)
          (.behind .done (fun some => (some rfl).elim) .done)))
  rw [← slices] at spaced
  have respaced := spells_spaced lexes (blank '\t' rfl) spaced
  refine ⟨spells_iff.mpr ⟨tokens, tokens_ok_iff.mp lexes, rfl⟩,
    (congrArg (fun text => Spells text word) ?_).mp respaced⟩
  decide +kernel

end TurtleScene
