/-
**The patterns of the lexer.**

What the lexer takes from a text is declared by patterns, each a language of words over characters:
the keywords, the words with a text of their own, the punctuation marks, and what is skipped.

* `Pattern.language` — the words of a pattern, by the operations on regular languages.
* `Pattern.kind?` — the token that a matched word makes, with the text that it carries.
* `mem_identifier`, `mem_integer`, … — the words of a pattern, character by character, in the
  classes that the lexer tests.
-/

import Mathlib.Computability.Language
import TurtleScene.Token.Lexeme

namespace TurtleScene

open Computability

/-! ### Declared patterns -/

/-- The words of a single character of a class. -/
def single (inClass : Char → Prop) : Language Char :=
  {word | ∃ character, word = [character] ∧ inClass character}

/-- A character out of some ranges, both ends included, or one of some others. -/
def OneOf (ranges : List (Char × Char)) (others : List Char) (character : Char) : Prop :=
  (∃ range ∈ ranges, range.1 ≤ character ∧ character ≤ range.2) ∨ character ∈ others

/-- One or more words of a language. -/
def oneOrMore (language : Language Char) : Language Char := language * language∗

/-- What is declared to the lexer. -/
inductive Pattern
  | keyword (word : Keyword)
  | identifier
  | integer
  | decimal
  | string
  | color
  | mark (symbol : Mark)
  /-- Blank space. -/
  | blank
  /-- A comment up to the end of the line. -/
  | comment
  deriving DecidableEq

namespace Pattern

/-- The words of a pattern. -/
def language : Pattern → Language Char
  | .keyword word => {word.spelling.toList}
  | .identifier =>
    single (OneOf [('a', 'z'), ('A', 'Z')] ['_']) *
      (single (OneOf [('a', 'z'), ('A', 'Z'), ('0', '9')] ['_']))∗
  | .integer => oneOrMore (single (OneOf [('0', '9')] []))
  | .decimal =>
    oneOrMore (single (OneOf [('0', '9')] [])) *
      ({['.']} * oneOrMore (single (OneOf [('0', '9')] [])))
  | .string => {['"']} * ((single (· ∉ ['"', '\n']))∗ * {['"']})
  | .color => {['#']} * (single (OneOf [('0', '9'), ('a', 'z'), ('A', 'Z')] []))∗
  | .mark symbol => {[symbol.character]}
  | .blank => oneOrMore (single (OneOf [] [' ', '\t', '\n', '\r', '\x0c']))
  | .comment => {['/', '/']} * (single (· ∉ ['\n']))∗

/-- The token that a word of a pattern makes, if it is not skipped. A quoted text loses its quotes,
all other texts are carried as they are. -/
def kind? : Pattern → List Char → Option TokenKind
  | .keyword word, _ => some (.keyword word)
  | .identifier, word => some (.identifier (String.ofList word))
  | .integer, word => some (.integer (String.ofList word))
  | .decimal, word => some (.decimal (String.ofList word))
  | .string, word => some (.string (String.ofList word.tail.dropLast))
  | .color, word => some (.color (String.ofList word))
  | .mark symbol, _ => some (.mark symbol)
  | .blank, _ => none
  | .comment, _ => none

end Pattern

/-! ### Words of the regular operations -/

theorem mem_singleton_mul {prefixed : List Char} {language : Language Char} {word : List Char} :
    word ∈ ({prefixed} : Language Char) * language ↔
      ∃ rest ∈ language, word = prefixed ++ rest := by
  rw [Language.mem_mul]
  constructor
  · rintro ⟨_, rfl, rest, member, rfl⟩
    exact ⟨rest, member, rfl⟩
  · rintro ⟨rest, member, rfl⟩
    exact ⟨prefixed, rfl, rest, member, rfl⟩

theorem mem_single_mul {inClass : Char → Prop} {language : Language Char} {word : List Char} :
    word ∈ single inClass * language ↔
      ∃ head, inClass head ∧ ∃ tail ∈ language, word = head :: tail := by
  rw [Language.mem_mul]
  constructor
  · rintro ⟨_, ⟨head, rfl, holds⟩, tail, member, rfl⟩
    exact ⟨head, holds, tail, member, rfl⟩
  · rintro ⟨head, holds, tail, member, rfl⟩
    exact ⟨[head], ⟨head, rfl, holds⟩, tail, member, rfl⟩

/-- A repetition of single characters of a class is a text of that class. -/
theorem mem_kstar_single {inClass : Char → Prop} {word : List Char} :
    word ∈ (single inClass)∗ ↔ ∀ character ∈ word, inClass character := by
  rw [Language.mem_kstar]
  constructor
  · rintro ⟨parts, rfl, each⟩ character member
    obtain ⟨part, inParts, inPart⟩ := List.mem_flatten.mp member
    obtain ⟨only, rfl, holds⟩ := each part inParts
    rw [List.mem_singleton.mp inPart]
    exact holds
  · intro each
    refine ⟨word.map fun character => [character], by simp [← List.flatMap_def], ?_⟩
    intro part member
    obtain ⟨character, inWord, rfl⟩ := List.mem_map.mp member
    exact ⟨character, rfl, each character inWord⟩

theorem mem_oneOrMore_single {inClass : Char → Prop} {word : List Char} :
    word ∈ oneOrMore (single inClass) ↔ word ≠ [] ∧ ∀ character ∈ word, inClass character := by
  rw [oneOrMore, mem_single_mul]
  constructor
  · rintro ⟨head, holds, tail, member, rfl⟩
    exact ⟨List.cons_ne_nil head tail,
      List.forall_mem_cons.mpr ⟨holds, mem_kstar_single.mp member⟩⟩
  · rintro ⟨nonempty, each⟩
    obtain ⟨head, tail, rfl⟩ := List.exists_cons_of_ne_nil nonempty
    obtain ⟨holds, others⟩ := List.forall_mem_cons.mp each
    exact ⟨head, holds, tail, mem_kstar_single.mpr others, rfl⟩

/-! ### The classes of the lexer -/

theorem isUpper_iff {character : Char} :
    character.isUpper = true ↔ 'A' ≤ character ∧ character ≤ 'Z' := by
  show decide ('A' ≤ character ∧ character ≤ 'Z') = true ↔ _
  exact decide_eq_true_iff

theorem isLower_iff {character : Char} :
    character.isLower = true ↔ 'a' ≤ character ∧ character ≤ 'z' := by
  show (decide ('a' ≤ character) && decide (character ≤ 'z')) = true ↔ _
  rw [Bool.and_eq_true, decide_eq_true_eq, decide_eq_true_eq]

theorem isDigit_iff {character : Char} :
    character.isDigit = true ↔ '0' ≤ character ∧ character ≤ '9' := by
  show (decide ('0' ≤ character) && decide (character ≤ '9')) = true ↔ _
  rw [Bool.and_eq_true, decide_eq_true_eq, decide_eq_true_eq]

theorem isAlpha_iff {character : Char} :
    character.isAlpha = true ↔ character.isUpper = true ∨ character.isLower = true := by
  show (character.isUpper || character.isLower) = true ↔ _
  rw [Bool.or_eq_true]

theorem oneOf_wordStart {character : Char} :
    OneOf [('a', 'z'), ('A', 'Z')] ['_'] character ↔ isWordStart character = true := by
  simp [OneOf, isWordStart, isAlpha_iff, isUpper_iff, isLower_iff, or_comm]

theorem oneOf_wordPart {character : Char} :
    OneOf [('a', 'z'), ('A', 'Z'), ('0', '9')] ['_'] character ↔ isWordPart character = true := by
  simp [OneOf, isWordPart, Char.isAlphanum, isAlpha_iff, isUpper_iff, isLower_iff, isDigit_iff,
    or_assoc, or_left_comm]

theorem oneOf_digit {character : Char} :
    OneOf [('0', '9')] [] character ↔ character.isDigit = true := by
  simp [OneOf, isDigit_iff]

theorem oneOf_alphanum {character : Char} :
    OneOf [('0', '9'), ('a', 'z'), ('A', 'Z')] [] character ↔ character.isAlphanum = true := by
  simp [OneOf, Char.isAlphanum, isAlpha_iff, isUpper_iff, isLower_iff, isDigit_iff, or_comm]

theorem oneOf_blank {character : Char} :
    OneOf [] [' ', '\t', '\n', '\r', '\x0c'] character ↔ isBlank character = true := by
  simp [OneOf, isBlank, or_assoc]

theorem notMem_quotable {character : Char} :
    character ∉ ['"', '\n'] ↔ isQuotable character = true := by
  simp [isQuotable]

theorem notMem_linePart {character : Char} :
    character ∉ ['\n'] ↔ isLinePart character = true := by
  simp [isLinePart]

/-! ### The words of each pattern -/

namespace Pattern

theorem mem_identifier {word : List Char} :
    word ∈ identifier.language ↔
      ∃ head tail, isWordStart head = true ∧ (∀ character ∈ tail, isWordPart character = true) ∧
        word = head :: tail := by
  rw [language, mem_single_mul]
  constructor
  · rintro ⟨head, starts, tail, member, rfl⟩
    exact ⟨head, tail, oneOf_wordStart.mp starts,
      fun character inTail => oneOf_wordPart.mp (mem_kstar_single.mp member character inTail), rfl⟩
  · rintro ⟨head, tail, starts, parts, rfl⟩
    exact ⟨head, oneOf_wordStart.mpr starts, tail,
      mem_kstar_single.mpr fun character inTail => oneOf_wordPart.mpr (parts character inTail), rfl⟩

/-- A keyword is written like an identifier. -/
theorem keyword_mem_identifier (word : Keyword) : word.spelling.toList ∈ identifier.language := by
  rw [mem_identifier]
  cases word <;> exact ⟨_, _, by decide, List.all_eq_true.mp (by decide), rfl⟩

theorem mem_digits {word : List Char} :
    word ∈ oneOrMore (single (OneOf [('0', '9')] [])) ↔
      word ≠ [] ∧ ∀ character ∈ word, character.isDigit = true := by
  rw [mem_oneOrMore_single]
  exact and_congr_right fun _ => forall₂_congr fun _ _ => oneOf_digit

theorem mem_integer {word : List Char} :
    word ∈ integer.language ↔ word ≠ [] ∧ ∀ character ∈ word, character.isDigit = true :=
  mem_digits

theorem mem_decimal {word : List Char} :
    word ∈ decimal.language ↔
      ∃ whole fraction, (whole ≠ [] ∧ ∀ character ∈ whole, character.isDigit = true) ∧
        (fraction ≠ [] ∧ ∀ character ∈ fraction, character.isDigit = true) ∧
        word = whole ++ '.' :: fraction := by
  rw [language, Language.mem_mul]
  constructor
  · rintro ⟨whole, inWhole, _, member, rfl⟩
    obtain ⟨fraction, inFraction, rfl⟩ := mem_singleton_mul.mp member
    exact ⟨whole, fraction, mem_digits.mp inWhole, mem_digits.mp inFraction, rfl⟩
  · rintro ⟨whole, fraction, inWhole, inFraction, rfl⟩
    exact ⟨whole, mem_digits.mpr inWhole, '.' :: fraction,
      mem_singleton_mul.mpr ⟨fraction, mem_digits.mpr inFraction, rfl⟩, rfl⟩

theorem mem_string {word : List Char} :
    word ∈ string.language ↔
      ∃ text, (∀ character ∈ text, isQuotable character = true) ∧
        word = '"' :: (text ++ ['"']) := by
  rw [language, mem_singleton_mul]
  constructor
  · rintro ⟨_, member, rfl⟩
    obtain ⟨text, inText, _, rfl, rfl⟩ := Language.mem_mul.mp member
    exact ⟨text, fun character inside =>
      notMem_quotable.mp (mem_kstar_single.mp inText character inside), rfl⟩
  · rintro ⟨text, quotable, rfl⟩
    exact ⟨text ++ ['"'], Language.append_mem_mul (mem_kstar_single.mpr fun character inside =>
      notMem_quotable.mpr (quotable character inside)) rfl, rfl⟩

theorem mem_color {word : List Char} :
    word ∈ color.language ↔
      ∃ tail, (∀ character ∈ tail, character.isAlphanum = true) ∧ word = '#' :: tail := by
  rw [language, mem_singleton_mul]
  refine exists_congr fun tail => and_congr ?_ Iff.rfl
  rw [mem_kstar_single]
  exact forall₂_congr fun _ _ => oneOf_alphanum

theorem mem_blank {word : List Char} :
    word ∈ blank.language ↔ word ≠ [] ∧ ∀ character ∈ word, isBlank character = true := by
  rw [language, mem_oneOrMore_single]
  exact and_congr_right fun _ => forall₂_congr fun _ _ => oneOf_blank

theorem mem_comment {word : List Char} :
    word ∈ comment.language ↔
      ∃ tail, (∀ character ∈ tail, isLinePart character = true) ∧ word = '/' :: '/' :: tail := by
  rw [language, mem_singleton_mul]
  refine exists_congr fun tail => and_congr ?_ Iff.rfl
  rw [mem_kstar_single]
  exact forall₂_congr fun _ _ => notMem_linePart

end Pattern

end TurtleScene
