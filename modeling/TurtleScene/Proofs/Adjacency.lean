/-
**A punctuation mark separates the lexemes around it.**

Nothing that begins in front of a mark reads across it, once the mark is a token of its own. So text
may be put directly behind a text that ends with a mark: the items of both stay what they are.

* `Lexeme.first_append` — a lexeme is the same with more text behind it, if something stops it.
* `itemsFrom_append_mark` — the items of a text that ends with a mark, and of the text behind it.
* `itemsFrom_append_blanks` — blanks in front of a text.
* **`Spells.append_mark`**, `Spells.prepend_blanks` — the same for sources.
-/

import TurtleScene.Proofs.Spelling

namespace TurtleScene

open Text

/-! ### Lexemes that are stopped -/

section Stopped

variable {α : Type} {inClass : α → Bool} {front : List α}

theorem takeWhile_append_of_stopped (stopped : front.dropWhile inClass ≠ []) (more : List α) :
    (front ++ more).takeWhile inClass = front.takeWhile inClass := by
  rw [List.takeWhile_append, if_neg]
  intro whole
  have parts := congrArg List.length (List.takeWhile_append_dropWhile (p := inClass) (l := front))
  rw [List.length_append, whole] at parts
  exact stopped (List.length_eq_zero_iff.mp (by omega))

theorem dropWhile_append_of_stopped (stopped : front.dropWhile inClass ≠ []) (more : List α) :
    (front ++ more).dropWhile inClass = front.dropWhile inClass ++ more := by
  rw [List.dropWhile_append, if_neg]
  rwa [List.isEmpty_iff]

end Stopped

namespace Lexeme

theorem run_append (reading : List Char → Reading) {inClass : Char → Bool} {head : Char}
    {tail : List Char} (stopped : (run reading inClass head tail).rest ≠ []) (more : List Char) :
    run reading inClass head (tail ++ more) = (run reading inClass head tail).followedBy more := by
  rw [run, takeWhile_append_of_stopped stopped, dropWhile_append_of_stopped stopped]
  rfl

/-- A point alone behind digits belongs to a number if a digit is put behind it, so it is left
out. -/
theorem number_append {head : Char} {tail : List Char} (stopped : (number head tail).rest ≠ [])
    (noPoint : (number head tail).rest ≠ ['.']) (more : List Char) :
    number head (tail ++ more) = (number head tail).followedBy more := by
  have digits : tail.dropWhile Char.isDigit ≠ [] := by
    intro none
    simp [number, none] at stopped
  unfold number at stopped noPoint ⊢
  rw [takeWhile_append_of_stopped digits, dropWhile_append_of_stopped digits]
  cases behind : tail.dropWhile Char.isDigit with
  | nil => exact (digits behind).elim
  | cons point others =>
    rw [behind] at stopped noPoint
    by_cases isPoint : point = '.'
    · subst isPoint
      cases others with
      | nil => exact (noPoint rfl).elim
      | cons digit further =>
        by_cases isDigit : digit.isDigit = true
        · simp only [isDigit, if_true] at stopped
          simp [isDigit, followedBy, takeWhile_append_of_stopped stopped,
            dropWhile_append_of_stopped stopped]
        · simp [isDigit, followedBy]
    · simp [isPoint, followedBy]

theorem quoted_append {tail : List Char} (stopped : tail.dropWhile isQuotable ≠ [])
    (more : List Char) : quoted (tail ++ more) = (quoted tail).followedBy more := by
  unfold quoted
  rw [takeWhile_append_of_stopped stopped, dropWhile_append_of_stopped stopped]
  cases behind : tail.dropWhile isQuotable with
  | nil => exact (stopped behind).elim
  | cons next others =>
    by_cases isQuote : next = '"'
    · subst isQuote
      rfl
    · simp [isQuote, followedBy]

/-- **A lexeme that something stops** is the same with more text behind it. -/
theorem first_append {head : Char} {tail : List Char} (stopped : (first head tail).rest ≠ [])
    (noPoint : (first head tail).rest ≠ ['.']) (more : List Char) :
    first head (tail ++ more) = (first head tail).followedBy more := by
  have nonempty : tail ≠ [] := by
    rintro rfl
    exact stopped (List.length_eq_zero_iff.mp (Nat.lt_one_iff.mp (rest_length_lt head [])))
  have slashes : (tail ++ more).head? = some '/' ↔ tail.head? = some '/' := by
    rw [List.head?_append_of_ne_nil _ nonempty]
  unfold first at stopped noPoint ⊢
  simp only [slashes]
  split_ifs at stopped noPoint ⊢
  · exact run_append _ stopped more
  · exact run_append _ stopped more
  · exact number_append stopped noPoint more
  · exact run_append _ stopped more
  · refine quoted_append (fun none => stopped ?_) more
    rw [quoted, none]
  · exact run_append _ stopped more
  · cases Mark.ofCharacter? head <;> rfl

end Lexeme

/-! ### Texts that end with a mark -/

/-- A mark at the end of a text is its last character. -/
theorem exists_of_mark_at_end {offset : Nat} {text : List Char} {others : List Item}
    {symbol : Mark} {place : Span}
    (items : itemsFrom offset text = others ++ [.token ⟨.mark symbol, place⟩])
    (atEnd : place.stop = offset + byteLength text) :
    ∃ before, text = before ++ [symbol.character] := by
  obtain ⟨before, covered, rest, rfl, cut⟩ := (munched_itemsFrom offset text).cut items
  have stop : place.stop = offset + byteLength before + byteLength covered :=
    congrArg Span.stop cut.isSpan
  rw [byteLength_append, byteLength_append] at atEnd
  have noRest : rest = [] := by
    by_contra some
    have := byteLength_pos some
    omega
  have isMark : covered = [symbol.character] := by
    have spelling : String.singleton symbol.character = String.ofList covered := cut.isText
    simpa using (congrArg String.toList spelling).symm
  exact ⟨before, by rw [noRest, isMark, List.append_nil]⟩

/-- A lexeme that leaves a token behind it is read as the token. -/
theorem Lexeme.reading_of_itemsAt {offset : Nat} {lexeme : Lexeme} {others : List Item}
    {token : Token} (items : lexeme.itemsAt offset = others ++ [.token token]) :
    lexeme.reading = .token token.kind ∧ token.span.stop = offset + byteLength lexeme.covered := by
  have single : ∀ {item last : Item}, [item] = others ++ [last] → item = last := by
    intro item last same
    rcases List.singleton_eq_append_iff.mp same with ⟨_, same⟩ | ⟨_, same⟩ <;> cases same
    rfl
  unfold itemsAt at items
  cases isReading : lexeme.reading with
  | blank =>
    rw [isReading] at items
    cases (List.append_eq_nil_iff.mp items.symm).2
  | token kind =>
    rw [isReading] at items
    cases single items
    exact ⟨rfl, rfl⟩
  | fault =>
    rw [isReading] at items
    cases single items

/-- A lexeme that is read as a mark is its character. -/
theorem Lexeme.covered_of_mark {head : Char} {tail : List Char} {symbol : Mark}
    (isMark : (first head tail).reading = .token (.mark symbol)) :
    (first head tail).covered = [symbol.character] := by
  have noFault : (first head tail).reading ≠ .fault := by
    rw [isMark]
    exact Reading.noConfusion
  obtain ⟨pattern, taken, reads⟩ := exists_longest noFault
  rw [isMark, Pattern.reading] at reads
  cases pattern with
  | mark other =>
    cases reads
    exact taken.here.word
  | keyword _ | identifier | integer | decimal | string | color | blank | comment => cases reads

/-- A token at the end of a text is at the end of the text behind the first lexeme, if there is
some. -/
theorem exists_token_at_end_of_rest {offset : Nat} {head : Char} {tail : List Char}
    {others : List Item} {token : Token}
    (items : itemsFrom offset (head :: tail) = others ++ [.token token])
    (atEnd : token.span.stop = offset + byteLength (head :: tail))
    (goesOn : (Lexeme.first head tail).rest ≠ []) :
    let stop := offset + byteLength (Lexeme.first head tail).covered
    (∃ between, itemsFrom stop (Lexeme.first head tail).rest = between ++ [.token token]) ∧
      token.span.stop = stop + byteLength (Lexeme.first head tail).rest := by
  intro stop
  rw [← Lexeme.covered_append_rest, byteLength_append, ← Nat.add_assoc] at atEnd
  refine ⟨?_, atEnd⟩
  rw [itemsFrom_cons] at items
  rcases List.eq_nil_or_concat (itemsFrom stop (Lexeme.first head tail).rest) with
    none | ⟨between, last, isLast⟩
  · rw [none, List.append_nil] at items
    have := (Lexeme.reading_of_itemsAt items).2
    have := byteLength_pos goesOn
    omega
  · rw [isLast, List.concat_eq_append, ← List.append_assoc] at items
    have same := (List.append_inj' items rfl).2
    exact ⟨between, by rw [isLast, List.concat_eq_append, same]⟩

/-- **Text behind a mark is read on its own.** -/
theorem itemsFrom_append_mark {offset : Nat} {text : List Char} {others : List Item}
    {symbol : Mark} {place : Span}
    (items : itemsFrom offset text = others ++ [.token ⟨.mark symbol, place⟩])
    (atEnd : place.stop = offset + byteLength text) (more : List Char) :
    itemsFrom offset (text ++ more) =
      itemsFrom offset text ++ itemsFrom (offset + byteLength text) more := by
  induction size : text.length using Nat.strong_induction_on generalizing offset text others with
  | _ size ih =>
    cases text with
    | nil =>
      rw [itemsFrom_nil] at items
      cases others <;> cases items
    | cons head tail =>
      subst size
      have whole := Lexeme.covered_append_rest head tail
      by_cases alone : (Lexeme.first head tail).rest = []
      · -- the mark is the only lexeme
        rw [itemsFrom_cons, alone, itemsFrom_nil, List.append_nil] at items
        rw [Lexeme.covered_of_mark (Lexeme.reading_of_itemsAt items).1, alone] at whole
        cases whole
        rw [List.cons_append, itemsFrom_cons, itemsFrom_cons, Lexeme.first_mark, Lexeme.first_mark]
        simp [Lexeme.itemsAt]
      · have noPoint : (Lexeme.first head tail).rest ≠ ['.'] := by
          intro isPoint
          obtain ⟨before, isBefore⟩ := exists_of_mark_at_end items atEnd
          rw [isPoint, isBefore] at whole
          have same := (List.append_inj' whole rfl).2
          cases symbol <;> cases same
        obtain ⟨⟨between, inRest⟩, atEnd⟩ := exists_token_at_end_of_rest items atEnd alone
        have stops : byteLength (head :: tail) = byteLength (Lexeme.first head tail).covered +
            byteLength (Lexeme.first head tail).rest := by
          rw [← byteLength_append, whole]
        rw [List.cons_append, itemsFrom_cons, itemsFrom_cons offset head tail,
          Lexeme.first_append alone noPoint, stops, List.append_assoc, ← Nat.add_assoc offset]
        exact congrArg (List.append _)
          (ih _ (Lexeme.rest_length_lt head tail) inRest atEnd rfl)

/-- Blanks in front of a text leave no items behind. -/
theorem itemsFrom_append_blanks {blanks : List Char}
    (each : ∀ character ∈ blanks, isBlank character = true) (offset : Nat) (text : List Char) :
    itemsFrom offset (blanks ++ text) = itemsFrom (offset + byteLength blanks) text := by
  induction blanks generalizing offset with
  | nil => rfl
  | cons head others ih =>
    obtain ⟨blank, each⟩ := List.forall_mem_cons.mp each
    rw [List.cons_append, itemsFrom_blank blank, ih each, byteLength_cons, Nat.add_assoc]

/-! ### Sources that end with a mark -/

/-- The items of a text further along are tokens of the same kinds. -/
theorem exists_tokens_further {source : String} {word : List TokenKind}
    (spells : Spells source word) (offset : Nat) :
    ∃ tokens : List Token, itemsFrom offset source.toList = tokens.map Item.token ∧
      kinds tokens = word := by
  obtain ⟨inside, ahead, rfl⟩ := spells_iff.mp spells
  refine ⟨inside.map (Token.mapSpans (Span.shift offset)), ?_, ?_⟩
  · have moved := itemsFrom_add 0 offset source.toList
    rw [Nat.zero_add] at moved
    refine moved.trans ((congrArg (List.map _) ahead).trans ?_)
    rw [List.map_map, List.map_map]
    rfl
  · rw [kinds_mapSpans]

/-- **Text directly behind a mark** spells on what the text up to the mark spells. -/
theorem Spells.append_mark {source other : String} {word more : List TokenKind} {symbol : Mark}
    (spells : Spells source (word ++ [.mark symbol])) (tight : Tight source)
    (further : Spells other more) : Spells (source ++ other) (word ++ [.mark symbol] ++ more) := by
  obtain ⟨others, last, ahead, atEnd⟩ := tight
  obtain ⟨inside, same, isWord⟩ := spells_iff.mp spells
  obtain rfl : others ++ [last] = inside :=
    List.map_injective_iff.mpr (fun _ _ => Item.token.inj) (ahead.symm.trans same)
  obtain ⟨kind, place⟩ := last
  rw [kinds_append] at isWord
  obtain rfl : kind = .mark symbol := List.singleton_inj.mp (List.append_inj' isWord rfl).2
  obtain ⟨behind, isBehind, isMore⟩ := exists_tokens_further further (0 + byteLength source.toList)
  refine spells_iff.mpr ⟨others ++ [⟨.mark symbol, place⟩] ++ behind, ?_, ?_⟩
  · have items : itemsFrom 0 source.toList = others.map Item.token ++
        [.token ⟨.mark symbol, place⟩] := by
      rw [← List.map_singleton, ← List.map_append]
      exact ahead
    have stop : place.stop = 0 + byteLength source.toList := atEnd.trans (Nat.zero_add _).symm
    show itemsFrom 0 (source ++ other).toList = _
    rw [String.toList_append, itemsFrom_append_mark items stop, isBehind, List.map_append]
    exact congrArg (· ++ _) ahead
  · rw [kinds_append, kinds_append, isMore, isWord]

/-- Blanks in front of a text change nothing. -/
theorem Spells.prepend_blanks {blanks source : String} {word : List TokenKind}
    (each : ∀ character ∈ blanks.toList, isBlank character = true) (spells : Spells source word) :
    Spells (blanks ++ source) word := by
  obtain ⟨tokens, isTokens, isWord⟩ := exists_tokens_further spells (0 + byteLength blanks.toList)
  refine spells_iff.mpr ⟨tokens, ?_, isWord⟩
  rw [← isTokens, ← itemsFrom_append_blanks each, ← String.toList_append]
  rfl

end TurtleScene
