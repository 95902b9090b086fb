/-
**Quoted texts in dumps.**

A dump shows a text between quotes on a single line: quotes and backslashes are escaped, and so is
every character that does not stand for itself on a terminal.

* `quote` writes a text between quotes, `escape` a single character.
-/

import TurtleScene.Text.Unprintable

namespace TurtleScene.Text

/-- The digits of a code point: hexadecimal, in lower case, without leading zeros. -/
def codePointDigits (character : Char) : List Char := Nat.toDigits 16 character.toNat

/-- A character by its code point. -/
def escapeCodePoint (character : Char) : List Char :=
  ['\\', 'u', '\x7b'] ++ codePointDigits character ++ ['\x7d']

/-- The written form of a character in a quoted text. -/
def escape (character : Char) : List Char :=
  match character with
  | '\x00' => ['\\', '0']
  | '\t' => ['\\', 't']
  | '\r' => ['\\', 'r']
  | '\n' => ['\\', 'n']
  | '"' => ['\\', '"']
  | '\\' => ['\\', '\\']
  | _ =>
    if unprintable.contains character then escapeCodePoint character else [character]

/-- A text between quotes. -/
def quote (text : String) : String :=
  "\"" ++ String.ofList (text.toList.flatMap escape) ++ "\""

end TurtleScene.Text
