/-
**The tokens and faults of a text.**

Reading goes on behind each lexeme, so a text that holds faults still yields all its tokens.

* `itemsFrom` — the tokens and faults of a text in order.
* `TokenStream` — the items still to be read; behind them stands the end of the source.
* `TokenStream.tokens` — the tokens of a text without faults, the end of the source included.
-/

import TurtleScene.Text.Bytes
import TurtleScene.Token.Lexeme

namespace TurtleScene

open Text

/-! ### Items -/

/-- A stretch of a source that begins no token. -/
structure LexicalError where
  text : String
  span : Span
  deriving DecidableEq

/-- The wording of a lexical error. -/
def LexicalError.message (error : LexicalError) : String :=
  "unexpected character '" ++ error.text ++ "'"

/-- One answer of the lexer. -/
inductive Item
  | token (token : Token)
  | fault (error : LexicalError)
  deriving DecidableEq

/-- The token of an item, or its fault as an error. -/
def Item.toExcept : Item → Except LexicalError Token
  | .token found => .ok found
  | .fault error => .error error

/-- The tokens and faults of a text that begins at a byte offset of the source. -/
def itemsFrom (offset : Nat) : List Char → List Item
  | [] => []
  | head :: tail =>
    let lexeme := Lexeme.first head tail
    let stop := offset + byteLength lexeme.covered
    let others := itemsFrom stop lexeme.rest
    match lexeme.reading with
    | .blank => others
    | .token kind => .token ⟨kind, ⟨offset, stop⟩⟩ :: others
    | .fault => .fault ⟨String.ofList lexeme.covered, ⟨offset, stop⟩⟩ :: others
termination_by text => text.length
decreasing_by exact Lexeme.rest_length_lt head tail

/-! ### Streams -/

/-- The items still to be read, and the length of the source in bytes. -/
structure TokenStream where
  ahead : List Item
  length : Nat
  deriving DecidableEq

namespace TokenStream

/-- All items of a source. -/
def ofSource (source : String) : TokenStream :=
  ⟨itemsFrom 0 source.toList, byteLength source.toList⟩

/-- The token that stands behind all items, however often it is asked for. -/
def endToken (stream : TokenStream) : Token := ⟨.endOfFile, Span.point stream.length⟩

/-- The next item and the stream behind it. -/
def next (stream : TokenStream) : Item × TokenStream :=
  match stream.ahead with
  | [] => (.token stream.endToken, stream)
  | item :: others => (item, { stream with ahead := others })

/-- All tokens up to the end of the source, or the first fault. -/
def tokens (stream : TokenStream) : Except LexicalError (List Token) :=
  (stream.ahead ++ [Item.token stream.endToken]).mapM Item.toExcept

end TokenStream

end TurtleScene
