/-
**The first lexeme of a text.**

A lexeme is the stretch that is taken from the front of a text: blank space or a comment, the
longest token, or a stretch that begins no token.

The tokens are declared by patterns, from which the lexer of the language is generated. Two of its
rules are taken over here: that the longest match counts, and how far an error reaches, which is one
character, or from a quote up to the end of its line. The scan below decides by the first character
instead. `Proofs/MaximalMunch` proves that it gives the items of a source as the declared patterns
and these rules do.

* `Lexeme.first` — takes the first lexeme of a text.
* `Lexeme.covered_append_rest` — a lexeme and the text behind it are the whole text.
* `Lexeme.rest_length_lt` — a lexeme takes at least one character.
-/

import TurtleScene.Token

namespace TurtleScene

/-! ### Character classes -/

/-- The characters skipped between tokens. -/
def isBlank (character : Char) : Bool :=
  character == ' ' || character == '\t' || character == '\n' || character == '\r' ||
    character == '\x0c'

/-- The characters that begin an identifier or keyword. -/
def isWordStart (character : Char) : Bool := character.isAlpha || character == '_'

/-- The characters that continue an identifier or keyword. -/
def isWordPart (character : Char) : Bool := character.isAlphanum || character == '_'

/-- The characters that end neither a comment nor the line. -/
def isLinePart (character : Char) : Bool := character != '\n'

/-- The characters that a quoted text may hold: all but the quote and the end of the line. -/
def isQuotable (character : Char) : Bool := character != '"' && character != '\n'

/-! ### Lexemes -/

/-- What a stretch of text is to the lexer. -/
inductive Reading
  /-- Blank space or a comment. -/
  | blank
  | token (kind : TokenKind)
  /-- A stretch that begins no token. -/
  | fault
  deriving DecidableEq

/-- A stretch of text, what it is, and the text behind it. -/
structure Lexeme where
  reading : Reading
  covered : List Char
  rest : List Char

namespace Lexeme

/-- The longest run of characters of a class. -/
def run (reading : List Char → Reading) (inClass : Char → Bool) (head : Char)
    (tail : List Char) : Lexeme :=
  let covered := head :: tail.takeWhile inClass
  ⟨reading covered, covered, tail.dropWhile inClass⟩

/-- A keyword if the letters spell one, else an identifier. -/
def wordReading (letters : List Char) : Reading :=
  let word := String.ofList letters
  match Keyword.ofSpelling? word with
  | some keyword => .token (.keyword keyword)
  | none => .token (.identifier word)

/-- Digits, and with them a point if a digit follows it, and the digits from there on. -/
def number (head : Char) (tail : List Char) : Lexeme :=
  let whole := head :: tail.takeWhile Char.isDigit
  match tail.dropWhile Char.isDigit with
  | '.' :: digit :: more =>
    if digit.isDigit then
      let covered := whole ++ '.' :: digit :: more.takeWhile Char.isDigit
      ⟨.token (.decimal (String.ofList covered)), covered, more.dropWhile Char.isDigit⟩
    else
      ⟨.token (.integer (String.ofList whole)), whole, '.' :: digit :: more⟩
  | rest => ⟨.token (.integer (String.ofList whole)), whole, rest⟩

/-- The text behind an opening quote up to the closing one; a fault if the line has none. -/
def quoted (tail : List Char) : Lexeme :=
  let text := tail.takeWhile isQuotable
  match tail.dropWhile isQuotable with
  | '"' :: rest => ⟨.token (.string (String.ofList text)), '"' :: (text ++ ['"']), rest⟩
  | rest => ⟨.fault, '"' :: text, rest⟩

/-- The first lexeme of a text that begins with `head` and goes on with `tail`. -/
def first (head : Char) (tail : List Char) : Lexeme :=
  if isBlank head then run (fun _ => .blank) isBlank head tail
  else if isWordStart head then run wordReading isWordPart head tail
  else if head.isDigit then number head tail
  else if head = '#' then
    run (fun covered => .token (.color (String.ofList covered))) Char.isAlphanum head tail
  else if head = '"' then quoted tail
  else if head = '/' ∧ tail.head? = some '/' then run (fun _ => .blank) isLinePart head tail
  else
    match Mark.ofCharacter? head with
    | some mark => ⟨.token (.mark mark), [head], tail⟩
    | none => ⟨.fault, [head], tail⟩

theorem run_covered_append_rest (reading : List Char → Reading) (inClass : Char → Bool)
    (head : Char) (tail : List Char) :
    (run reading inClass head tail).covered ++ (run reading inClass head tail).rest =
      head :: tail := by
  simp [run]

theorem number_covered_append_rest (head : Char) (tail : List Char) :
    (number head tail).covered ++ (number head tail).rest = head :: tail := by
  have split := List.takeWhile_append_dropWhile (p := Char.isDigit) (l := tail)
  unfold number
  split
  · rename_i digit more found
    rw [found] at split
    split
    · simp only [List.cons_append, List.append_assoc, List.takeWhile_append_dropWhile]
      rw [split]
    · simp only [List.cons_append]
      rw [split]
  · rw [List.cons_append, split]

theorem quoted_covered_append_rest (tail : List Char) :
    (quoted tail).covered ++ (quoted tail).rest = '"' :: tail := by
  have split := List.takeWhile_append_dropWhile (p := isQuotable) (l := tail)
  unfold quoted
  split
  · rename_i rest found
    rw [found] at split
    simp only [List.cons_append, List.append_assoc, List.nil_append]
    rw [split]
  · rw [List.cons_append, split]

/-- **A lexeme and the text behind it are the whole text.** -/
theorem covered_append_rest (head : Char) (tail : List Char) :
    (first head tail).covered ++ (first head tail).rest = head :: tail := by
  unfold first
  split
  · exact run_covered_append_rest ..
  split
  · exact run_covered_append_rest ..
  split
  · exact number_covered_append_rest ..
  split
  · exact run_covered_append_rest ..
  split
  · rename_i quote
    rw [quote]
    exact quoted_covered_append_rest tail
  split
  · exact run_covered_append_rest ..
  split <;> rfl

theorem number_covered_ne_nil (head : Char) (tail : List Char) :
    (number head tail).covered ≠ [] := by
  unfold number
  split
  · split <;> simp
  · simp

theorem quoted_covered_ne_nil (tail : List Char) : (quoted tail).covered ≠ [] := by
  unfold quoted
  split <;> simp

/-- A lexeme is never empty. -/
theorem covered_ne_nil (head : Char) (tail : List Char) : (first head tail).covered ≠ [] := by
  unfold first
  split
  · simp [run]
  split
  · simp [run]
  split
  · exact number_covered_ne_nil head tail
  split
  · simp [run]
  split
  · exact quoted_covered_ne_nil tail
  split
  · simp [run]
  split <;> simp

/-- The text behind a lexeme is shorter than the text. -/
theorem rest_length_lt (head : Char) (tail : List Char) :
    (first head tail).rest.length < (head :: tail).length := by
  rw [← covered_append_rest head tail, List.length_append]
  have := List.length_pos_iff.mpr (covered_ne_nil head tail)
  omega

end Lexeme

end TurtleScene
