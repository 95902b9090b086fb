/-
**Tokens.**

The words of the scene language: twelve keywords, eight punctuation marks, five kinds of word that
carry a text of their own, and the end of the source.

* `TokenKind.describe` is how an error message names a token.
* `TokenKind.spelling` is the text that a token covers in a source.
* A keyword or mark is known by its spelling (`Keyword.ofSpelling?_spelling`,
  `Mark.ofCharacter?_character`).
-/

import TurtleScene.Span

namespace TurtleScene

/-- The reserved words. -/
inductive Keyword
  /-- Opens the definition of a shape. -/
  | shape
  /-- Names the colour of a shape. -/
  | pencil
  /-- Opens a rule. -/
  | rule
  /-- Opens the start sequence of a shape. -/
  | initiator
  /-- Places a shape in the scene. -/
  | draw
  /-- Opens the coordinates of a draw statement. -/
  | position
  | left
  | right
  | line
  | push
  | pop
  | jump
  deriving DecidableEq

namespace Keyword

/-- Every reserved word. -/
def all : List Keyword :=
  [.shape, .pencil, .rule, .initiator, .draw, .position, .left, .right, .line, .push, .pop, .jump]

/-- The word itself. -/
def spelling : Keyword → String
  | .shape => "shape"
  | .pencil => "pencil"
  | .rule => "rule"
  | .initiator => "axiom"
  | .draw => "draw"
  | .position => "at"
  | .left => "left"
  | .right => "right"
  | .line => "line"
  | .push => "push"
  | .pop => "pop"
  | .jump => "jump"

/-- The reserved word with a spelling, if there is one. -/
def ofSpelling? (word : String) : Option Keyword :=
  all.find? fun keyword => keyword.spelling == word

theorem ofSpelling?_spelling (keyword : Keyword) :
    ofSpelling? keyword.spelling = some keyword := by
  cases keyword <;> decide

end Keyword

/-- The punctuation marks, each a single character. -/
inductive Mark
  | leftBrace
  | rightBrace
  | leftParen
  | rightParen
  | semicolon
  | comma
  | equals
  | minus
  deriving DecidableEq

namespace Mark

/-- Every punctuation mark. -/
def all : List Mark :=
  [.leftBrace, .rightBrace, .leftParen, .rightParen, .semicolon, .comma, .equals, .minus]

/-- The character itself. -/
def character : Mark → Char
  | .leftBrace => '\x7b'
  | .rightBrace => '\x7d'
  | .leftParen => '('
  | .rightParen => ')'
  | .semicolon => ';'
  | .comma => ','
  | .equals => '='
  | .minus => '-'

/-- The mark that a character is, if it is one. -/
def ofCharacter? (character : Char) : Option Mark :=
  all.find? fun mark => mark.character == character

theorem ofCharacter?_character (mark : Mark) : ofCharacter? mark.character = some mark := by
  cases mark <;> decide

end Mark

/-- What a token is, apart from its place. -/
inductive TokenKind
  | keyword (word : Keyword)
  | mark (symbol : Mark)
  | identifier (name : String)
  /-- A run of digits. -/
  | integer (digits : String)
  /-- Digits, a point and digits. -/
  | decimal (text : String)
  /-- The text between two quotes. -/
  | string (text : String)
  /-- A `#` and what follows it; whether it is a colour is decided later. -/
  | color (text : String)
  /-- The end of the source. -/
  | endOfFile
  deriving DecidableEq

namespace TokenKind

/-- The text that a token of this kind covers in a source. -/
def spelling : TokenKind → String
  | .keyword word => word.spelling
  | .mark symbol => String.singleton symbol.character
  | .identifier name => name
  | .integer digits => digits
  | .decimal text => text
  | .string text => "\"" ++ text ++ "\""
  | .color text => text
  | .endOfFile => ""

/-- The text that a token carries beyond its kind, if it carries one. -/
def payload? : TokenKind → Option String
  | .identifier text | .integer text | .decimal text | .string text | .color text => some text
  | .keyword _ | .mark _ | .endOfFile => none

/-- The words by which an error message names a token. -/
def describe : TokenKind → String
  | .keyword word => "'" ++ word.spelling ++ "'"
  | .mark symbol => "'" ++ String.singleton symbol.character ++ "'"
  | .identifier name => "identifier '" ++ name ++ "'"
  | .integer digits => "integer '" ++ digits ++ "'"
  | .decimal text => "float '" ++ text ++ "'"
  | .string text => "string \"" ++ text ++ "\""
  | .color text => "color '" ++ text ++ "'"
  | .endOfFile => "end of file"

end TokenKind

/-- A token and the place it was read from. -/
structure Token where
  kind : TokenKind
  span : Span
  deriving DecidableEq

end TurtleScene
