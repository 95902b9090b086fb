/-
**The lexer takes the longest match.**

The scan of the lexer decides by the first character of a text which pattern to try. The declared
patterns know no such order: of all their words at the front of a text the longest counts.

* `MatchesFront`, `Longest` — a word of a pattern at the front of a text, and the one to be taken.
* `Munched` — the items of a text by longest match: what is skipped, the tokens, and the faults
  where no pattern has a word, each with its extent (`FaultExtent`).
* `Pattern.first_eq_scan` — a text that begins with a word of a pattern is scanned by the branch for
  that pattern.
* `Lexeme.exists_longest`, `Lexeme.eq_of_longest` — the first lexeme of a text is its longest match,
  and its longest match is the first lexeme.
* **`TokenStream.answers_are_munched`** — asked again and again, the lexer gives the items of a
  source by longest match, and then the end of the source.
-/

import TurtleScene.Proofs.Lists
import TurtleScene.Proofs.Pattern
import TurtleScene.Token.Stream

namespace TurtleScene

open Text

/-! ### The longest match -/

/-- A word of a pattern at the front of a text. -/
structure MatchesFront (pattern : Pattern) (covered text : List Char) : Prop where
  word : covered ∈ pattern.language
  nonempty : covered ≠ []
  front : covered <+: text

/-- The match to be taken: no pattern has a longer one, and an identifier is no keyword. -/
structure Longest (pattern : Pattern) (covered text : List Char) : Prop where
  here : MatchesFront pattern covered text
  longest : ∀ other stretch, MatchesFront other stretch text → stretch.length ≤ covered.length
  preferred : pattern = .identifier → ∀ keyword, covered ∉ (Pattern.keyword keyword).language

/-- How far a fault reaches: over one character, or from a quote up to the end of the line. -/
def FaultExtent (covered rest : List Char) : Prop :=
  (∃ character, character ≠ '"' ∧ covered = [character]) ∨
    ∃ text, covered = '"' :: text ∧ '\n' ∉ text ∧ ∀ next ∈ rest.head?, next = '\n'

theorem FaultExtent.nonempty {covered rest : List Char} (extent : FaultExtent covered rest) :
    covered ≠ [] := by
  rcases extent with ⟨character, _, rfl⟩ | ⟨text, rfl, _⟩ <;> exact List.cons_ne_nil _ _

/-- The extent of a fault is settled by the text. -/
theorem FaultExtent.covered_eq {covered rest other behind : List Char}
    (extent : FaultExtent covered rest) (otherExtent : FaultExtent other behind)
    (same : covered ++ rest = other ++ behind) : covered = other := by
  have line : ∀ {text rest : List Char}, '\n' ∉ text → (∀ next ∈ rest.head?, next = '\n') →
      (text ++ rest).takeWhile isLinePart = text := by
    intro text rest inLine ends
    have each : ∀ character ∈ text, isLinePart character = true := by
      intro character member
      rw [isLinePart, bne_iff_ne]
      exact fun newline => inLine (newline ▸ member)
    rw [List.takeWhile_append_of_pos each]
    cases rest with
    | nil => simp
    | cons next more =>
      cases ends next rfl
      simp [isLinePart]
  rcases extent with ⟨character, notQuote, rfl⟩ | ⟨text, rfl, inLine, ends⟩
  · rcases otherExtent with ⟨otherCharacter, _, rfl⟩ | ⟨otherText, rfl, _⟩
    · exact congrArg (fun head => [head]) (List.cons.inj same).1
    · exact (notQuote (List.cons.inj same).1).elim
  · rcases otherExtent with ⟨otherCharacter, notQuote, rfl⟩ | ⟨otherText, rfl, otherLine, otherEnds⟩
    · exact (notQuote (List.cons.inj same).1.symm).elim
    · have tails : text ++ rest = otherText ++ behind := (List.cons.inj same).2
      rw [← line inLine ends, tails, line otherLine otherEnds]

/-- The items of a text at an offset of the source, by longest match. -/
inductive Munched : Nat → List Char → List Item → Prop
  | done (offset : Nat) : Munched offset [] []
  | skipped {offset : Nat} {pattern : Pattern} {covered rest : List Char} {items : List Item} :
    Longest pattern covered (covered ++ rest) → pattern.kind? covered = none →
      Munched (offset + byteLength covered) rest items → Munched offset (covered ++ rest) items
  | token {offset : Nat} {pattern : Pattern} {kind : TokenKind} {covered rest : List Char}
      {items : List Item} :
    Longest pattern covered (covered ++ rest) → pattern.kind? covered = some kind →
      Munched (offset + byteLength covered) rest items →
      Munched offset (covered ++ rest)
        (.token ⟨kind, ⟨offset, offset + byteLength covered⟩⟩ :: items)
  | fault {offset : Nat} {covered rest : List Char} {error : LexicalError} {items : List Item} :
    (∀ pattern stretch, ¬ MatchesFront pattern stretch (covered ++ rest)) →
      FaultExtent covered rest →
      error.message = "unexpected character '" ++ String.ofList covered ++ "'" →
      error.span = ⟨offset, offset + byteLength covered⟩ →
      Munched (offset + byteLength covered) rest items →
      Munched offset (covered ++ rest) (.fault error :: items)

/-- The answers of the lexer when it is asked a number of times. -/
def TokenStream.answers (stream : TokenStream) : Nat → List Item
  | 0 => []
  | count + 1 => stream.next.1 :: stream.next.2.answers count

/-! ### The branch that a first character chooses -/

/-- A class without blank characters. -/
theorem isBlank_false_of_inClass {inClass : Char → Bool}
    (apart : ([' ', '\t', '\n', '\r', '\x0c'].all fun blank => !inClass blank) = true)
    {head : Char} (inside : inClass head = true) : isBlank head = false := by
  rw [Bool.eq_false_iff]
  intro blank
  simp only [isBlank, Bool.or_eq_true, beq_iff_eq] at blank
  have outside := List.all_eq_true.mp apart head (by simpa [or_assoc] using blank)
  rw [inside] at outside
  exact Bool.false_ne_true outside

theorem isBlank_false_of_isWordStart {head : Char} (starts : isWordStart head = true) :
    isBlank head = false :=
  isBlank_false_of_inClass (by decide) starts

theorem isBlank_false_of_isDigit {head : Char} (digit : head.isDigit = true) :
    isBlank head = false :=
  isBlank_false_of_inClass (by decide) digit

theorem isWordStart_false_of_isDigit {head : Char} (digit : head.isDigit = true) :
    isWordStart head = false := by
  have atMost : head ≤ '9' := (isDigit_iff.mp digit).2
  rw [Bool.eq_false_iff]
  intro starts
  rw [isWordStart, Bool.or_eq_true, isAlpha_iff, beq_iff_eq] at starts
  rcases starts with (upper | lower) | rfl
  · exact absurd (Char.le_trans (isUpper_iff.mp upper).1 atMost) (by decide)
  · exact absurd (Char.le_trans (isLower_iff.mp lower).1 atMost) (by decide)
  · exact absurd atMost (by decide)

namespace Lexeme

theorem first_of_isBlank {head : Char} (tail : List Char) (blank : isBlank head = true) :
    first head tail = run (fun _ => .blank) isBlank head tail := by
  rw [first, if_pos blank]

theorem first_of_isWordStart {head : Char} (tail : List Char) (starts : isWordStart head = true) :
    first head tail = run wordReading isWordPart head tail := by
  rw [first, isBlank_false_of_isWordStart starts, if_neg Bool.false_ne_true, if_pos starts]

theorem first_of_isDigit {head : Char} (tail : List Char) (digit : head.isDigit = true) :
    first head tail = number head tail := by
  rw [first, isBlank_false_of_isDigit digit, isWordStart_false_of_isDigit digit,
    if_neg Bool.false_ne_true, if_neg Bool.false_ne_true, if_pos digit]

theorem first_hash (tail : List Char) :
    first '#' tail =
      run (fun covered => .token (.color (String.ofList covered))) Char.isAlphanum '#' tail := rfl

theorem first_quote (tail : List Char) : first '"' tail = quoted tail := rfl

theorem first_slashes (tail : List Char) :
    first '/' ('/' :: tail) = run (fun _ => .blank) isLinePart '/' ('/' :: tail) := rfl

theorem first_mark (symbol : Mark) (tail : List Char) :
    first symbol.character tail = ⟨.token (.mark symbol), [symbol.character], tail⟩ := by
  cases symbol <;> rfl

/-- A number is a run of digits, unless a point and a digit follow the run. -/
theorem number_eq (head : Char) (tail : List Char) :
    (∃ digit more, tail.dropWhile Char.isDigit = '.' :: digit :: more ∧ digit.isDigit = true ∧
        number head tail =
          let covered := (head :: tail.takeWhile Char.isDigit) ++
            '.' :: digit :: more.takeWhile Char.isDigit
          ⟨.token (.decimal (String.ofList covered)), covered, more.dropWhile Char.isDigit⟩) ∨
      (∀ digit more, tail.dropWhile Char.isDigit = '.' :: digit :: more → digit.isDigit = false) ∧
        number head tail =
          let covered := head :: tail.takeWhile Char.isDigit
          ⟨.token (.integer (String.ofList covered)), covered, tail.dropWhile Char.isDigit⟩ := by
  unfold number
  split
  · rename_i digit more found
    rw [found]
    by_cases isDigit : digit.isDigit = true
    · exact .inl ⟨digit, more, rfl, isDigit, by rw [if_pos isDigit]⟩
    · refine .inr ⟨fun other others same => ?_, by rw [if_neg isDigit]⟩
      cases same
      exact Bool.eq_false_iff.mpr isDigit
  · rename_i noPoint
    exact .inr ⟨fun digit more found => (noPoint digit more found).elim, rfl⟩

/-- A run covers at least a stretch of its class. -/
theorem length_le_run (reading : List Char → Reading) {inClass : Char → Bool} (head : Char)
    {stretch : List Char} (rest : List Char)
    (each : ∀ character ∈ stretch, inClass character = true) :
    (head :: stretch).length ≤ (run reading inClass head (stretch ++ rest)).covered.length := by
  rw [run, List.takeWhile_append_of_pos each]
  simp

/-- A number covers at least its digits. -/
theorem length_le_number (head : Char) {stretch : List Char} (rest : List Char)
    (each : ∀ character ∈ stretch, character.isDigit = true) :
    (head :: stretch).length ≤ (number head (stretch ++ rest)).covered.length := by
  have digits : (head :: stretch).length ≤
      (head :: (stretch ++ rest).takeWhile Char.isDigit).length := by
    rw [List.takeWhile_append_of_pos each]
    simp
  rcases number_eq head (stretch ++ rest) with ⟨digit, more, _, _, same⟩ | ⟨_, same⟩
  · rw [same]
    simp only [List.length_append]
    omega
  · rw [same]
    exact digits

theorem wordReading_of_keyword (keyword : Keyword) :
    wordReading keyword.spelling.toList = .token (.keyword keyword) := by
  rw [wordReading, String.ofList_toList, Keyword.ofSpelling?_spelling]

/-- The letters of a word are those of a keyword, or the word is an identifier. -/
theorem wordReading_cases (letters : List Char) :
    (∃ keyword : Keyword, letters = keyword.spelling.toList ∧
        wordReading letters = .token (.keyword keyword)) ∨
      (∀ keyword : Keyword, letters ≠ keyword.spelling.toList) ∧
        wordReading letters = .token (.identifier (String.ofList letters)) := by
  by_cases spelled : ∃ keyword : Keyword, letters = keyword.spelling.toList
  · obtain ⟨keyword, rfl⟩ := spelled
    exact .inl ⟨keyword, rfl, wordReading_of_keyword keyword⟩
  · refine .inr ⟨fun keyword same => spelled ⟨keyword, same⟩, ?_⟩
    rw [wordReading]
    cases found : Keyword.ofSpelling? (String.ofList letters) with
    | none => rfl
    | some keyword =>
      have same := List.find?_some found
      rw [beq_iff_eq] at same
      exact (spelled ⟨keyword, by rw [same, String.toList_ofList]⟩).elim

end Lexeme

namespace Pattern

/-- What a word of a pattern is to the lexer. -/
def reading (pattern : Pattern) (word : List Char) : Reading :=
  match pattern.kind? word with
  | some kind => .token kind
  | none => .blank

/-- The scan that serves a pattern, on a text that begins with a word of it. -/
def scan (head : Char) (tail : List Char) : Pattern → Lexeme
  | .keyword _ | .identifier => Lexeme.run Lexeme.wordReading isWordPart head tail
  | .integer | .decimal => Lexeme.number head tail
  | .string => Lexeme.quoted tail
  | .color =>
    Lexeme.run (fun covered => .token (.color (String.ofList covered))) Char.isAlphanum head tail
  | .mark symbol => ⟨.token (.mark symbol), [head], tail⟩
  | .blank => Lexeme.run (fun _ => .blank) isBlank head tail
  | .comment => Lexeme.run (fun _ => .blank) isLinePart head tail

/-- **A text that begins with a word of a pattern is scanned for that pattern.** -/
theorem first_eq_scan {pattern : Pattern} {head : Char} {stretch rest : List Char}
    (word : head :: stretch ∈ pattern.language) :
    Lexeme.first head (stretch ++ rest) = pattern.scan head (stretch ++ rest) := by
  have asIdentifier : head :: stretch ∈ identifier.language →
      Lexeme.first head (stretch ++ rest) = identifier.scan head (stretch ++ rest) := by
    intro member
    obtain ⟨_, _, starts, _, same⟩ := mem_identifier.mp member
    cases same
    exact Lexeme.first_of_isWordStart _ starts
  cases pattern with
  | keyword keyword =>
    have same : head :: stretch = keyword.spelling.toList := word
    exact asIdentifier (same ▸ keyword_mem_identifier keyword)
  | identifier => exact asIdentifier word
  | integer =>
    obtain ⟨_, digits⟩ := mem_integer.mp word
    exact Lexeme.first_of_isDigit _ (digits head List.mem_cons_self)
  | decimal =>
    obtain ⟨whole, fraction, ⟨nonempty, digits⟩, _, same⟩ := mem_decimal.mp word
    obtain ⟨first, others, rfl⟩ := List.exists_cons_of_ne_nil nonempty
    cases same
    exact Lexeme.first_of_isDigit _ (digits head List.mem_cons_self)
  | string =>
    obtain ⟨text, _, same⟩ := mem_string.mp word
    cases same
    exact Lexeme.first_quote _
  | color =>
    obtain ⟨tail, _, same⟩ := mem_color.mp word
    cases same
    exact Lexeme.first_hash _
  | mark symbol =>
    have same : head :: stretch = [symbol.character] := word
    cases same
    exact Lexeme.first_mark symbol _
  | blank =>
    obtain ⟨_, blanks⟩ := mem_blank.mp word
    exact Lexeme.first_of_isBlank _ (blanks head List.mem_cons_self)
  | comment =>
    obtain ⟨tail, _, same⟩ := mem_comment.mp word
    cases same
    exact Lexeme.first_slashes _

/-- Digits, a point and digits are read as a decimal up to the last digit. -/
theorem scan_decimal {head : Char} {stretch : List Char} (rest : List Char)
    (word : head :: stretch ∈ decimal.language) :
    decimal.scan head (stretch ++ rest) =
      let covered := head :: (stretch ++ rest.takeWhile Char.isDigit)
      ⟨.token (.decimal (String.ofList covered)), covered, rest.dropWhile Char.isDigit⟩ := by
  obtain ⟨whole, fraction, ⟨nonempty, inWhole⟩, ⟨filled, inFraction⟩, same⟩ := mem_decimal.mp word
  obtain ⟨first, others, rfl⟩ := List.exists_cons_of_ne_nil nonempty
  obtain ⟨digit, more, rfl⟩ := List.exists_cons_of_ne_nil filled
  obtain ⟨_, inOthers⟩ := List.forall_mem_cons.mp inWhole
  obtain ⟨isDigit, inMore⟩ := List.forall_mem_cons.mp inFraction
  rw [List.cons_append, List.cons.injEq] at same
  obtain ⟨rfl, rfl⟩ := same
  rw [scan, Lexeme.number, List.append_assoc, List.cons_append, List.cons_append,
    dropWhile_append_stop _ inOthers (by decide), takeWhile_append_stop _ inOthers (by decide)]
  simp only [List.cons_append, List.append_assoc, isDigit, if_true,
    List.takeWhile_append_of_pos inMore, List.dropWhile_append_of_pos inMore]

/-- A quoted text is read up to its closing quote. -/
theorem scan_string {head : Char} {stretch : List Char} (rest : List Char)
    (word : head :: stretch ∈ string.language) :
    string.scan head (stretch ++ rest) =
      ⟨string.reading (head :: stretch), head :: stretch, rest⟩ := by
  obtain ⟨text, quotable, same⟩ := mem_string.mp word
  obtain ⟨rfl, rfl⟩ := List.cons.inj same
  rw [scan, Lexeme.quoted, List.append_assoc, List.cons_append, List.nil_append,
    dropWhile_append_stop _ quotable (by decide), takeWhile_append_stop _ quotable (by decide),
    reading, kind?, List.tail_cons, List.dropLast_concat]
  rfl

/-- No word of a pattern is longer than what is scanned. -/
theorem length_le_scan {pattern : Pattern} {head : Char} {stretch : List Char} (rest : List Char)
    (word : head :: stretch ∈ pattern.language) :
    (head :: stretch).length ≤ (pattern.scan head (stretch ++ rest)).covered.length := by
  have asIdentifier : head :: stretch ∈ identifier.language →
      (head :: stretch).length ≤ (identifier.scan head (stretch ++ rest)).covered.length := by
    intro member
    obtain ⟨_, _, _, parts, same⟩ := mem_identifier.mp member
    cases same
    exact Lexeme.length_le_run _ _ _ parts
  cases pattern with
  | keyword keyword =>
    have same : head :: stretch = keyword.spelling.toList := word
    exact asIdentifier (same ▸ keyword_mem_identifier keyword)
  | identifier => exact asIdentifier word
  | integer =>
    obtain ⟨_, digits⟩ := mem_integer.mp word
    exact Lexeme.length_le_number _ _ (List.forall_mem_cons.mp digits).2
  | decimal =>
    rw [scan_decimal rest word]
    simp
  | string => rw [scan_string rest word]
  | color =>
    obtain ⟨tail, parts, same⟩ := mem_color.mp word
    cases same
    exact Lexeme.length_le_run _ _ _ parts
  | mark symbol =>
    have same : head :: stretch = [symbol.character] := word
    cases same
    exact Nat.le_refl _
  | blank =>
    obtain ⟨_, blanks⟩ := mem_blank.mp word
    exact Lexeme.length_le_run _ _ _ (List.forall_mem_cons.mp blanks).2
  | comment =>
    obtain ⟨tail, parts, same⟩ := mem_comment.mp word
    cases same
    exact Lexeme.length_le_run _ _ _ (List.forall_mem_cons.mpr ⟨by decide, parts⟩)

/-- A text that begins with a word of a pattern does not begin with a fault. -/
theorem scan_reading_ne_fault {pattern : Pattern} {head : Char} {stretch : List Char}
    (rest : List Char) (word : head :: stretch ∈ pattern.language) :
    (pattern.scan head (stretch ++ rest)).reading ≠ .fault := by
  cases pattern with
  | keyword _ | identifier =>
    rcases Lexeme.wordReading_cases (head :: (stretch ++ rest).takeWhile isWordPart) with
      ⟨keyword, _, same⟩ | ⟨_, same⟩
    · exact fun fault => Reading.noConfusion (same.symm.trans fault)
    · exact fun fault => Reading.noConfusion (same.symm.trans fault)
  | integer | decimal =>
    rcases Lexeme.number_eq head (stretch ++ rest) with ⟨_, _, _, _, same⟩ | ⟨_, same⟩
    · simp [scan, same]
    · simp [scan, same]
  | string =>
    rw [scan_string rest word]
    exact Reading.noConfusion
  | color | mark _ | blank | comment => exact Reading.noConfusion

/-- If all that is scanned is a word of the pattern, it is read as one. -/
theorem scan_reading {pattern : Pattern} {head : Char} {stretch : List Char} (rest : List Char)
    (word : head :: stretch ∈ pattern.language)
    (all : (pattern.scan head (stretch ++ rest)).covered = head :: stretch)
    (preferred : pattern = .identifier →
      ∀ keyword, head :: stretch ∉ (Pattern.keyword keyword).language) :
    (pattern.scan head (stretch ++ rest)).reading = pattern.reading (head :: stretch) := by
  cases pattern with
  | keyword keyword =>
    have same : head :: stretch = keyword.spelling.toList := word
    show Lexeme.wordReading (scan head (stretch ++ rest) (.keyword keyword)).covered = _
    rw [all, same]
    exact Lexeme.wordReading_of_keyword keyword
  | identifier =>
    show Lexeme.wordReading (scan head (stretch ++ rest) .identifier).covered = _
    rw [all]
    rcases Lexeme.wordReading_cases (head :: stretch) with ⟨keyword, same, _⟩ | ⟨_, same⟩
    · exact (preferred rfl keyword same).elim
    · exact same
  | integer =>
    obtain ⟨_, digits⟩ := mem_integer.mp word
    rcases Lexeme.number_eq head (stretch ++ rest) with ⟨digit, more, _, _, same⟩ | ⟨_, same⟩
    · rw [scan, same] at all
      have point : '.' ∈ head :: stretch := by rw [← all]; simp
      exact absurd (digits '.' point) (by decide)
    · rw [scan, same] at all ⊢
      rw [reading, kind?, ← all]
  | decimal =>
    rw [scan_decimal rest word] at all ⊢
    rw [reading, kind?, ← all]
  | string => rw [scan_string rest word]
  | color => rw [reading, kind?, ← all]; rfl
  | mark _ | blank | comment => rfl

end Pattern

/-! ### The first lexeme -/

namespace Lexeme

/-- A lexeme is a word of a pattern and read as one, and an identifier only if it is no keyword. -/
def Matched (lexeme : Lexeme) : Prop :=
  ∃ pattern : Pattern, lexeme.covered ∈ pattern.language ∧
    lexeme.reading = pattern.reading lexeme.covered ∧
    (pattern = .identifier → ∀ keyword, lexeme.covered ∉ (Pattern.keyword keyword).language)

theorem word_matched {head : Char} (tail : List Char) (starts : isWordStart head = true) :
    (run wordReading isWordPart head tail).Matched := by
  rcases wordReading_cases (head :: tail.takeWhile isWordPart) with
    ⟨keyword, spelled, same⟩ | ⟨other, same⟩
  · exact ⟨.keyword keyword, spelled, same, Pattern.noConfusion⟩
  · have word : head :: tail.takeWhile isWordPart ∈ Pattern.identifier.language :=
      Pattern.mem_identifier.mpr ⟨head, _, starts, fun _ => List.mem_takeWhile_imp, rfl⟩
    exact ⟨.identifier, word, same, fun _ => other⟩

theorem number_matched {head : Char} (tail : List Char) (isDigit : head.isDigit = true) :
    (number head tail).Matched := by
  have digits : ∀ character ∈ head :: tail.takeWhile Char.isDigit, character.isDigit = true :=
    List.forall_mem_cons.mpr ⟨isDigit, fun _ => List.mem_takeWhile_imp⟩
  rcases number_eq head tail with ⟨digit, more, _, follows, same⟩ | ⟨_, same⟩
  · have fraction : ∀ character ∈ digit :: more.takeWhile Char.isDigit,
        character.isDigit = true :=
      List.forall_mem_cons.mpr ⟨follows, fun _ => List.mem_takeWhile_imp⟩
    have word : (head :: tail.takeWhile Char.isDigit) ++
        '.' :: (digit :: more.takeWhile Char.isDigit) ∈ Pattern.decimal.language :=
      Pattern.mem_decimal.mpr ⟨_, _, ⟨List.cons_ne_nil _ _, digits⟩,
        ⟨List.cons_ne_nil _ _, fraction⟩, rfl⟩
    rw [same]
    exact ⟨.decimal, word, rfl, Pattern.noConfusion⟩
  · have word : head :: tail.takeWhile Char.isDigit ∈ Pattern.integer.language :=
      Pattern.mem_integer.mpr ⟨List.cons_ne_nil _ _, digits⟩
    rw [same]
    exact ⟨.integer, word, rfl, Pattern.noConfusion⟩

/-- A quote opens a quoted text, or a fault that reaches up to the end of the line. -/
theorem quoted_matched_or_fault (tail : List Char) :
    (quoted tail).Matched ∨
      (quoted tail).reading = .fault ∧ FaultExtent (quoted tail).covered (quoted tail).rest := by
  have text : ∀ character ∈ tail.takeWhile isQuotable, isQuotable character = true :=
    fun _ => List.mem_takeWhile_imp
  unfold quoted
  split
  · refine .inl ⟨.string, Pattern.mem_string.mpr ⟨_, text, rfl⟩, ?_, Pattern.noConfusion⟩
    simp [Pattern.reading, Pattern.kind?]
  · rename_i unclosed
    refine .inr ⟨rfl, .inr ⟨_, rfl, fun newline => absurd (text _ newline) (by decide), ?_⟩⟩
    intro next isNext
    have stops := List.head?_dropWhile_not isQuotable tail
    obtain ⟨more, split⟩ := List.head?_eq_some_iff.mp isNext
    change tail.dropWhile isQuotable = next :: more at split
    rw [split] at stops
    have noQuote : next ≠ '"' := fun same => unclosed more (by rw [split, same])
    simpa [isQuotable, noQuote] using stops

/-- A text begins with a word of a pattern or with a fault. -/
theorem first_matched_or_fault (head : Char) (tail : List Char) :
    (first head tail).Matched ∨
      (first head tail).reading = .fault ∧
        FaultExtent (first head tail).covered (first head tail).rest := by
  unfold first
  split
  · rename_i blank
    have blanks : ∀ character ∈ head :: tail.takeWhile isBlank, isBlank character = true :=
      List.forall_mem_cons.mpr ⟨blank, fun _ => List.mem_takeWhile_imp⟩
    have word := Pattern.mem_blank.mpr ⟨List.cons_ne_nil _ _, blanks⟩
    exact .inl ⟨.blank, word, rfl, Pattern.noConfusion⟩
  split
  · exact .inl (word_matched tail ‹_›)
  split
  · exact .inl (number_matched tail ‹_›)
  split
  · rename_i isHash
    have word : '#' :: tail.takeWhile Char.isAlphanum ∈ Pattern.color.language :=
      Pattern.mem_color.mpr ⟨_, fun _ => List.mem_takeWhile_imp, rfl⟩
    rw [isHash]
    exact .inl ⟨.color, word, rfl, Pattern.noConfusion⟩
  split
  · exact quoted_matched_or_fault tail
  split
  · rename_i slashes
    obtain ⟨rfl, second⟩ := slashes
    obtain ⟨more, rfl⟩ := List.head?_eq_some_iff.mp second
    have covered : ('/' :: ('/' :: more).takeWhile isLinePart) =
        '/' :: '/' :: more.takeWhile isLinePart := by
      rw [List.takeWhile_cons_of_pos (by decide)]
    have word := Pattern.mem_comment.mpr ⟨_, fun _ => List.mem_takeWhile_imp, covered⟩
    exact .inl ⟨.comment, word, rfl, Pattern.noConfusion⟩
  split
  · rename_i symbol isMark
    have same := List.find?_some isMark
    rw [beq_iff_eq] at same
    exact .inl ⟨.mark symbol, by rw [← same]; rfl, rfl, Pattern.noConfusion⟩
  · exact .inr ⟨rfl, .inl ⟨head, ‹_›, rfl⟩⟩

/-- No match at the front of a text is longer than its first lexeme, which then is no fault. -/
theorem length_le_of_matches {pattern : Pattern} {stretch : List Char} {head : Char}
    {tail : List Char} (here : MatchesFront pattern stretch (head :: tail)) :
    stretch.length ≤ (first head tail).covered.length ∧ (first head tail).reading ≠ .fault := by
  obtain ⟨word, nonempty, rest, same⟩ := here
  obtain ⟨start, others, rfl⟩ := List.exists_cons_of_ne_nil nonempty
  rw [List.cons_append, List.cons.injEq] at same
  obtain ⟨rfl, rfl⟩ := same
  rw [Pattern.first_eq_scan word]
  exact ⟨Pattern.length_le_scan rest word, Pattern.scan_reading_ne_fault rest word⟩

theorem covered_front (head : Char) (tail : List Char) :
    (first head tail).covered <+: head :: tail :=
  ⟨(first head tail).rest, covered_append_rest head tail⟩

/-- **The first lexeme of a text is its longest match**, if it is no fault. -/
theorem exists_longest {head : Char} {tail : List Char}
    (found : (first head tail).reading ≠ .fault) :
    ∃ pattern, Longest pattern (first head tail).covered (head :: tail) ∧
      (first head tail).reading = pattern.reading (first head tail).covered := by
  obtain ⟨pattern, word, same, preferred⟩ :=
    (first_matched_or_fault head tail).resolve_right fun fault => found fault.1
  exact ⟨pattern, ⟨⟨word, covered_ne_nil head tail, covered_front head tail⟩,
    fun _ _ other => (length_le_of_matches other).1, preferred⟩, same⟩

/-- **The longest match of a text is its first lexeme.** -/
theorem eq_of_longest {pattern : Pattern} {covered : List Char} {head : Char} {tail : List Char}
    (taken : Longest pattern covered (head :: tail)) :
    (first head tail).covered = covered ∧ (first head tail).reading = pattern.reading covered := by
  obtain ⟨bound, found⟩ := length_le_of_matches taken.here
  obtain ⟨other, ⟨otherHere, _, _⟩, _⟩ := exists_longest found
  have same : (first head tail).covered = covered :=
    (List.prefix_of_prefix_length_le taken.here.front (covered_front head tail) bound
      |>.eq_of_length_le (taken.longest other _ otherHere)).symm
  refine ⟨same, ?_⟩
  obtain ⟨⟨word, nonempty, rest, front⟩, _, preferred⟩ := taken
  obtain ⟨start, others, rfl⟩ := List.exists_cons_of_ne_nil nonempty
  rw [List.cons_append, List.cons.injEq] at front
  obtain ⟨rfl, rfl⟩ := front
  rw [Pattern.first_eq_scan word] at same ⊢
  exact Pattern.scan_reading rest word same preferred

/-- A fault is taken where no pattern has a match, to the same extent. -/
theorem eq_of_unmatched {covered rest : List Char} {head : Char} {tail : List Char}
    (split : covered ++ rest = head :: tail)
    (unmatched : ∀ pattern stretch, ¬ MatchesFront pattern stretch (head :: tail))
    (extent : FaultExtent covered rest) :
    (first head tail).covered = covered ∧ (first head tail).reading = .fault := by
  have fault : (first head tail).reading = .fault := by
    by_contra found
    obtain ⟨pattern, taken, _⟩ := exists_longest found
    exact unmatched _ _ taken.here
  obtain ⟨_, taken⟩ := (first_matched_or_fault head tail).resolve_left fun matched => by
    obtain ⟨pattern, word, _⟩ := matched
    exact unmatched _ _ ⟨word, covered_ne_nil head tail, covered_front head tail⟩
  refine ⟨?_, fault⟩
  have whole := (covered_append_rest head tail).trans split.symm
  exact taken.covered_eq extent whole

end Lexeme

/-! ### The items of a text -/

/-- The item that a lexeme at an offset makes, if it makes one. -/
def Lexeme.itemsAt (offset : Nat) (lexeme : Lexeme) : List Item :=
  match lexeme.reading with
  | .blank => []
  | .token kind => [.token ⟨kind, ⟨offset, offset + byteLength lexeme.covered⟩⟩]
  | .fault =>
    [.fault ⟨String.ofList lexeme.covered, ⟨offset, offset + byteLength lexeme.covered⟩⟩]

@[simp] theorem itemsFrom_nil (offset : Nat) : itemsFrom offset [] = [] := by
  rw [itemsFrom]

/-- The items of a text are that of its first lexeme and those of the text behind it. -/
theorem itemsFrom_cons (offset : Nat) (head : Char) (tail : List Char) :
    itemsFrom offset (head :: tail) =
      (Lexeme.first head tail).itemsAt offset ++
        itemsFrom (offset + byteLength (Lexeme.first head tail).covered)
          (Lexeme.first head tail).rest := by
  rw [itemsFrom, Lexeme.itemsAt]
  cases (Lexeme.first head tail).reading <;> rfl

/-- The items of a text whose first lexeme is known by what it covers. -/
theorem itemsFrom_append (offset : Nat) {covered rest : List Char} {reading : Reading}
    (nonempty : covered ≠ [])
    (taken : ∀ head tail, covered ++ rest = head :: tail →
      (Lexeme.first head tail).covered = covered ∧ (Lexeme.first head tail).reading = reading) :
    itemsFrom offset (covered ++ rest) =
      Lexeme.itemsAt offset ⟨reading, covered, rest⟩ ++
        itemsFrom (offset + byteLength covered) rest := by
  obtain ⟨head, stretch, rfl⟩ := List.exists_cons_of_ne_nil nonempty
  obtain ⟨covers, reads⟩ := taken head (stretch ++ rest) rfl
  have behind := Lexeme.covered_append_rest head (stretch ++ rest)
  rw [covers, ← List.cons_append, List.append_cancel_left_eq] at behind
  rw [List.cons_append, itemsFrom_cons, covers, behind, Lexeme.itemsAt, reads, covers,
    Lexeme.itemsAt]

/-- What the lexer takes is the longest match. -/
theorem munched_itemsFrom (offset : Nat) (text : List Char) :
    Munched offset text (itemsFrom offset text) := by
  induction size : text.length using Nat.strong_induction_on generalizing offset text with
  | _ size ih =>
    cases text with
    | nil =>
      rw [itemsFrom_nil]
      exact .done offset
    | cons head tail =>
      subst size
      have others := ih _ (Lexeme.rest_length_lt head tail)
        (offset + byteLength (Lexeme.first head tail).covered) (Lexeme.first head tail).rest rfl
      have whole := Lexeme.covered_append_rest head tail
      rw [itemsFrom_cons]
      by_cases fault : (Lexeme.first head tail).reading = .fault
      · have unmatched : ¬ (Lexeme.first head tail).Matched := by
          intro ⟨_, word, _⟩
          have here := MatchesFront.mk word (Lexeme.covered_ne_nil head tail)
            (Lexeme.covered_front head tail)
          exact (Lexeme.length_le_of_matches here).2 fault
        obtain ⟨_, extent⟩ :=
          (Lexeme.first_matched_or_fault head tail).resolve_left unmatched
        rw [← whole, Lexeme.itemsAt, fault]
        exact .fault (fun _ _ here => (Lexeme.length_le_of_matches (whole ▸ here)).2 fault) extent
          rfl rfl others
      · obtain ⟨pattern, taken, reads⟩ := Lexeme.exists_longest fault
        rw [← whole] at taken ⊢
        cases made : pattern.kind? (Lexeme.first head tail).covered with
        | none =>
          rw [Lexeme.itemsAt, reads, Pattern.reading, made]
          exact .skipped taken made others
        | some kind =>
          rw [Lexeme.itemsAt, reads, Pattern.reading, made]
          exact .token taken made others

theorem eq_of_enclosed {before behind text other : String}
    (same : before ++ text ++ behind = before ++ other ++ behind) : text = other := by
  have texts := congrArg String.toList same
  rw [String.toList_append, String.toList_append, String.toList_append,
    String.toList_append] at texts
  exact String.toList_inj.mp (List.append_cancel_left (List.append_cancel_right texts))

/-- The items by longest match are those that the lexer takes. -/
theorem Munched.eq_itemsFrom {offset : Nat} {text : List Char} {items : List Item}
    (munched : Munched offset text items) : itemsFrom offset text = items := by
  induction munched with
  | done offset => exact itemsFrom_nil offset
  | @skipped offset pattern covered rest items taken made _ ih =>
    rw [itemsFrom_append offset taken.here.nonempty fun head tail split =>
      Lexeme.eq_of_longest (split ▸ taken), ih, Lexeme.itemsAt, Pattern.reading, made]
    rfl
  | @token offset pattern kind covered rest items taken made _ ih =>
    rw [itemsFrom_append offset taken.here.nonempty fun head tail split =>
      Lexeme.eq_of_longest (split ▸ taken), ih, Lexeme.itemsAt, Pattern.reading, made]
    rfl
  | @fault offset covered rest error items unmatched extent told placed _ ih =>
    have same : error = ⟨String.ofList covered, ⟨offset, offset + byteLength covered⟩⟩ := by
      obtain ⟨text, span⟩ := error
      rw [LexicalError.mk.injEq]
      exact ⟨eq_of_enclosed told, placed⟩
    have taken : ∀ head tail, covered ++ rest = head :: tail →
        (Lexeme.first head tail).covered = covered ∧
          (Lexeme.first head tail).reading = .fault := by
      intro head tail split
      rw [split] at unmatched
      exact Lexeme.eq_of_unmatched split unmatched extent
    rw [itemsFrom_append offset extent.nonempty taken, ih, same]
    rfl

/-! ### The answers of the lexer -/

/-- The lexer answers with the items ahead, and then with the end of the source. -/
theorem TokenStream.answers_eq (stream : TokenStream) (count : Nat) :
    stream.answers count =
      (stream.ahead ++ List.replicate count (Item.token stream.endToken)).take count := by
  induction count generalizing stream with
  | zero => rfl
  | succ count ih =>
    obtain ⟨ahead, length⟩ := stream
    rw [answers, ih]
    cases ahead with
    | nil => simp [next, endToken, List.replicate_succ]
    | cons item others =>
      show item :: (others ++ List.replicate count _).take count =
        item :: (others ++ List.replicate (count + 1) _).take count
      have enough : count ≤ (others ++ List.replicate count
          (Item.token (endToken ⟨item :: others, length⟩))).length := by
        rw [List.length_append, List.length_replicate]
        omega
      rw [List.replicate_succ', ← List.append_assoc, List.take_append_of_le_length enough]
      rfl

/-- **The lexer takes the longest match at every position it reaches.** A source has exactly one
reading by longest match: its items are what the lexer answers with, one after the other, and then
it answers with the end of the source. -/
theorem TokenStream.answers_are_munched (source : String) :
    ∃ items, (∀ other, Munched 0 source.toList other ↔ other = items) ∧
      ∀ count, (ofSource source).answers count =
        (items ++ List.replicate count
          (Item.token ⟨.endOfFile, Span.point (byteLength source.toList)⟩)).take count := by
  refine ⟨itemsFrom 0 source.toList, fun other => ⟨fun munched => munched.eq_itemsFrom.symm, ?_⟩,
    (ofSource source).answers_eq⟩
  rintro rfl
  exact munched_itemsFrom 0 source.toList

end TurtleScene
