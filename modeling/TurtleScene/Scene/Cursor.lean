/-
**Reading tokens one by one.**

A cursor holds the current token, and the stream of those behind it. The next token is read when the
current one is taken, so a fault in the text shows as soon as the token before it is taken; the
current token then stays where it is, and the fault is passed.

* `Parser.advance` takes the current token, `Parser.expect` one of a given kind.
* `Parser.manyWhile` reads members as long as the current token begins one. A member takes at least
  one token, so the tokens left bound the number of members.
-/

import TurtleScene.Scene.ParseError

namespace TurtleScene

/-- The current token and the items behind it. -/
structure Cursor where
  current : Token
  ahead : TokenStream
  deriving DecidableEq

namespace Cursor

/-- The cursor on the first token of a source. -/
def ofSource (source : String) : Except LexicalError Cursor :=
  match (TokenStream.ofSource source).next with
  | (.token found, ahead) => .ok ⟨found, ahead⟩
  | (.fault error, _) => .error error

/-- Whether the current token is the end of the source. -/
def atEnd (cursor : Cursor) : Bool := cursor.current.kind = .endOfFile

/-- The number of items from the current token on. -/
def remaining (cursor : Cursor) : Nat :=
  cursor.ahead.ahead.length + if cursor.atEnd then 0 else 1

end Cursor

/-- A reader of a part of a source. A failure, too, leaves the cursor behind what was taken. -/
abbrev Parser := EStateM ParseError Cursor

namespace Parser

/-- The current token. -/
def current : Parser Token := return (← get).current

/-- Takes the current token. -/
def advance : Parser Token := fun cursor =>
  match cursor.ahead.next with
  | (.token found, ahead) => .ok cursor.current ⟨found, ahead⟩
  | (.fault error, ahead) => .error (.lexical error) ⟨cursor.current, ahead⟩

/-- Refuses the current token. -/
def refuse {α : Type} (expected : Expectation) : Parser α := do
  throw (.unexpected expected (← current))

/-- Takes the current token, which has to be of a given kind. -/
def expect (kind : TokenKind) : Parser Token := do
  if (← current).kind = kind then advance else refuse (.exactly kind)

/-- Takes a keyword. -/
def keyword (word : Keyword) : Parser Token := expect (.keyword word)

/-- Takes a punctuation mark. -/
def mark (symbol : Mark) : Parser Token := expect (.mark symbol)

/-- Takes an identifier and gives its name and place. -/
def identifier : Parser (String × Span) := do
  match (← current).kind with
  | .identifier name => return (name, (← advance).span)
  | _ => refuse .identifier

/-- Reads members as long as the current token is one that can begin them. A member is told what
came before it, the latest first. -/
def manyWhile {α : Type} (begins : TokenKind → Bool) (member : List α → Parser α)
    (earlier : List α) : Parser (List α) := fun cursor =>
  if begins cursor.current.kind then
    match member earlier cursor with
    | .error error after => .error error after
    | .ok value after =>
      if after.remaining < cursor.remaining then
        match manyWhile begins member (value :: earlier) after with
        | .error error last => .error error last
        | .ok others last => .ok (value :: others) last
      else .ok [value] after
  else .ok [] cursor
termination_by cursor => cursor.remaining

end Parser

end TurtleScene
