/-
**Reading a scene.**

```
scene       := declaration*
declaration := shape | draw
shape       := 'shape' name '{' 'pencil' color ';' rule* 'axiom' block '}'
rule        := 'rule' name '(' name ')' block
draw        := 'draw' name ['at' pair] ';'
block       := '{' (instruction ';')* '}'
instruction := ('left' | 'right' | 'line' | name) argument | 'push' | 'pop' | 'jump' pair
             | name '=' expression
argument    := '(' [expression] ')'
pair        := '(' [expression] ',' [expression] ')'
expression  := integer | float | string | name | '-' (integer | float)
```

* `Scene.parse` reads the scene of a source.
* `Scene.parseRepeatedly` goes on after the first answer, be it a scene or an error.
-/

import TurtleScene.Number.Rounding
import TurtleScene.Scene.Cursor
import TurtleScene.Scene.Declaration

namespace TurtleScene

namespace Parser

/-! ### Operands -/

/-- The operand of an integer text. -/
def integerOperand (text : String) (span : Span) : Parser Operand :=
  match Integer.read? text.toList with
  | some value => return ⟨.literal (.integer value), span⟩
  | none => throw (.integerOutOfRange text span)

/-- The number of a decimal text. -/
def decimalNumber (text : String) (span : Span) : Parser Binary64 :=
  match Binary64.read? text.toList with
  | some value => return value
  | none => throw (.malformedDecimal text span)

/-- The number behind a minus sign. -/
def negated (minus : Token) : Parser Operand := do
  let number ← advance
  let span := minus.span.merge number.span
  match number.kind with
  | .integer digits => integerOperand ("-" ++ digits) span
  | .decimal text => return ⟨.literal (.real (← decimalNumber text span).negate), span⟩
  | _ => throw (.unexpected .numberAfterMinus number)

/-- An operand that is written out. Its first token is taken before it is judged. -/
def expression : Parser Operand := do
  let token ← advance
  match token.kind with
  | .integer digits => integerOperand digits token.span
  | .decimal text => return ⟨.literal (.real (← decimalNumber text token.span)), token.span⟩
  | .string text => return ⟨.literal (.text text), token.span⟩
  | .identifier name => return ⟨.literal (.name name), token.span⟩
  | .mark .minus => negated token
  | _ => throw (.unexpected .expression token)

/-- Whether a token ends the place of an operand, so that a place that begins with it is empty. -/
def endsOperand (kind : TokenKind) : Bool := kind = .mark .rightParen ∨ kind = .mark .comma

/-- An operand, or the empty place of one. -/
def optionalExpression : Parser Operand := do
  let token ← current
  if endsOperand token.kind then return ⟨.missing, Span.point token.span.start⟩ else expression

/-- An operand between parentheses. -/
def argument : Parser Operand := do
  discard <| mark .leftParen
  let operand ← optionalExpression
  discard <| mark .rightParen
  return operand

/-- Two operands between parentheses. -/
def pair : Parser (Operand × Operand) := do
  discard <| mark .leftParen
  let x ← optionalExpression
  discard <| mark .comma
  let y ← optionalExpression
  discard <| mark .rightParen
  return (x, y)

/-! ### Instructions -/

/-- The call of a rule, or the assignment of a variable, behind its name. -/
def callOrAssignment (name : String) : Parser InstructionForm := do
  if (← current).kind = .mark .equals then
    discard advance
    return .assign name (← expression)
  else
    return .call name (← argument)

/-- An instruction up to the semicolon. -/
def instructionForm : Parser InstructionForm := do
  match (← current).kind with
  | .keyword .left => discard advance; return .left (← argument)
  | .keyword .right => discard advance; return .right (← argument)
  | .keyword .line => discard advance; return .line (← argument)
  | .keyword .push => discard advance; return .push
  | .keyword .pop => discard advance; return .pop
  | .keyword .jump =>
    discard advance
    let (x, y) ← pair
    return .jump x y
  | .identifier name => discard advance; callOrAssignment name
  | _ => refuse .instruction

/-- An instruction with its semicolon. -/
def instruction : Parser Instruction := do
  let first ← current
  let form ← instructionForm
  let last ← mark .semicolon
  return ⟨form, first.span.merge last.span⟩

/-- Whether a block goes on at a token. -/
def continuesBlock (kind : TokenKind) : Bool := kind ≠ .mark .rightBrace ∧ kind ≠ .endOfFile

/-- Instructions between braces, and the place of the whole block. -/
def block : Parser (List Instruction × Span) := do
  let first ← mark .leftBrace
  let instructions ← manyWhile continuesBlock (fun _ => instruction) []
  let last ← mark .rightBrace
  return (instructions, first.span.merge last.span)

/-! ### Declarations -/

/-- A colour as it is written; whether it is one is not decided here. -/
def color : Parser (String × Span) := do
  match (← current).kind with
  | .identifier text | .color text | .string text => return (text, (← advance).span)
  | _ => refuse .color

/-- A rule. -/
def rule : Parser Rule := do
  let first ← keyword .rule
  let (name, _) ← identifier
  discard <| mark .leftParen
  let (parameter, _) ← identifier
  discard <| mark .rightParen
  let (instructions, blockSpan) ← block
  return ⟨name, parameter, instructions, first.span.merge blockSpan⟩

/-- The start sequence of a shape. -/
def initiator : Parser Initiator := do
  let first ← keyword .initiator
  let (instructions, blockSpan) ← block
  return ⟨instructions, first.span.merge blockSpan⟩

/-- The definition of a shape. -/
def shape : Parser Shape := do
  let first ← keyword .shape
  let (name, _) ← identifier
  discard <| mark .leftBrace
  discard <| keyword .pencil
  let (pencil, pencilSpan) ← color
  discard <| mark .semicolon
  let rules ← manyWhile (· = .keyword .rule) (fun _ => rule) []
  let start ← initiator
  let last ← mark .rightBrace
  return ⟨name, pencil, pencilSpan, rules, start, first.span.merge last.span⟩

/-- The coordinates of a draw statement. Without any, both are left out behind the name. -/
def position (nameSpan : Span) : Parser (Operand × Operand) := do
  if (← current).kind = .keyword .position then
    discard advance
    pair
  else
    let nowhere := ⟨.missing, Span.point nameSpan.stop⟩
    return (nowhere, nowhere)

/-- A draw statement. -/
def draw : Parser DrawStatement := do
  let first ← keyword .draw
  let (name, nameSpan) ← identifier
  let (x, y) ← position nameSpan
  let last ← mark .semicolon
  return ⟨name, nameSpan, x, y, first.span.merge last.span⟩

/-- A declaration. A shape whose name is taken is refused as soon as it is read. -/
def declaration (earlier : List Declaration) : Parser Declaration := do
  match (← current).kind with
  | .keyword .shape =>
    let definition ← shape
    if Declaration.defines earlier definition.name then
      throw (.duplicateShape definition.name definition.span)
    return .shape definition
  | .keyword .draw => return .draw (← draw)
  | _ => refuse .declaration

/-- All declarations up to the end of the source, and the scene that they make. -/
def scene : Parser Scene := do
  let declarations ← manyWhile (· ≠ .endOfFile) declaration []
  MonadExcept.ofExcept (Scene.ofDeclarations declarations)

end Parser

namespace Scene

/-- The answer of reading a scene from a cursor on, and the cursor behind it. -/
def parseFrom (cursor : Cursor) : Except ParseError Scene × Cursor :=
  match Parser.scene cursor with
  | .ok scene after => (.ok scene, after)
  | .error error after => (.error error, after)

/-- The answers of reading a scene again and again, each time from where the last one stopped. -/
def parseManyFrom : Nat → Cursor → List (Except ParseError Scene)
  | 0, _ => []
  | times + 1, cursor =>
    let (answer, after) := parseFrom cursor
    answer :: parseManyFrom times after

/-- The answers of reading a source a number of times in a row. A source whose first token cannot be
read has that one answer. -/
def parseRepeatedly (times : Nat) (source : String) : List (Except ParseError Scene) :=
  match Cursor.ofSource source with
  | .ok cursor => parseManyFrom times cursor
  | .error error => [.error (.lexical error)]

/-- The scene of a source. -/
def parse (source : String) : Except ParseError Scene :=
  match Cursor.ofSource source with
  | .ok cursor => (parseFrom cursor).1
  | .error error => .error (.lexical error)

end Scene

end TurtleScene
