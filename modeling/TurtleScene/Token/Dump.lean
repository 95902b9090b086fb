/-
**The dump of a source's tokens.**

* `Token.dump` writes a token with its kind, its payload between quotes and its span;
  `dumpTokens` writes one line per token.
-/

import TurtleScene.Text.Quoted
import TurtleScene.Token

namespace TurtleScene

/-- The name of a reserved word in dumps. -/
def Keyword.label : Keyword → String
  | .shape => "Shape"
  | .pencil => "Pencil"
  | .rule => "Rule"
  | .initiator => "Axiom"
  | .draw => "Draw"
  | .position => "At"
  | .left => "Left"
  | .right => "Right"
  | .line => "Line"
  | .push => "Push"
  | .pop => "Pop"
  | .jump => "Jump"

/-- The name of a punctuation mark in dumps. -/
def Mark.label : Mark → String
  | .leftBrace => "LBrace"
  | .rightBrace => "RBrace"
  | .leftParen => "LParen"
  | .rightParen => "RParen"
  | .semicolon => "Semi"
  | .comma => "Comma"
  | .equals => "Eq"
  | .minus => "Minus"

/-- The name of a kind in dumps. -/
def TokenKind.label : TokenKind → String
  | .keyword word => word.label
  | .mark symbol => symbol.label
  | .identifier _ => "Identifier"
  | .integer _ => "IntLiteral"
  | .decimal _ => "FloatLiteral"
  | .string _ => "StringLiteral"
  | .color _ => "HexColor"
  | .endOfFile => "Eof"

/-- A kind with its payload, if it carries one. -/
def TokenKind.dump (kind : TokenKind) : String :=
  match kind.payload? with
  | some text => kind.label ++ "(" ++ Text.quote text ++ ")"
  | none => kind.label

/-- A token on one line. -/
def Token.dump (token : Token) : String :=
  "Token \x7b kind: " ++ token.kind.dump ++ ", span: " ++ token.span.describe ++ " \x7d"

/-- One line per token. -/
def dumpTokens (tokens : List Token) : String :=
  String.join (tokens.map fun token => token.dump ++ "\n")

end TurtleScene
