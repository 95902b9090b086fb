/-
**Texts without what steers a terminal.**

A terminal takes an escape character and what follows it as a command, up to an end that depends on
the kind of the command. A text that is quoted in a message must not steer the terminal: its
commands are left out, and its control characters but the blanks.

* `ControlSequence.next` says how a command goes on and where it ends.
* `Reception.step` is what a terminal makes of a character, in the midst of a text or of a command.
* `withoutControls` is the text that is left.
-/

namespace TurtleScene.Text

/-! ### Kinds of characters -/

/-- The character that begins every command. -/
def escapeCharacter : Char := '\x1B'

/-- Whether a character ends any command at once. -/
def isCancel (character : Char) : Bool := character = '\x18' || character = '\x1A'

/-- Whether a control character moves the cursor over blank places only. -/
def isBlankControl (character : Char) : Bool :=
  character = '\t' || character = '\n' || character = '\x0C' || character = '\r'

/-- Whether a character outside of commands is left in a text. -/
def isShown (character : Char) : Bool :=
  isBlankControl character || (0x20 ≤ character.toNat && character.toNat ≠ 0x7F)

/-- Whether a character may stand between the begin of a command and its final character. -/
def isIntermediate (character : Char) : Bool :=
  0x20 ≤ character.toNat && character.toNat ≤ 0x2F

/-- Whether a character is a digit of a parameter or stands beside parameters. -/
def isParameter (character : Char) : Bool :=
  0x30 ≤ character.toNat && character.toNat ≤ 0x3F

/-- Whether a character tells what a command does, which ends most of them. -/
def isFinal (character : Char) : Bool :=
  0x40 ≤ character.toNat && character.toNat ≤ 0x7E

/-- Whether one of the bytes of a character ends a string for the terminal. -/
def hasStringEnd (character : Char) : Bool :=
  (String.utf8EncodeChar character).contains 0x9C

/-! ### Commands -/

/-- How far a command has been read. -/
inductive ControlSequence
  /-- The escape character alone. -/
  | escape
  /-- Intermediate characters behind the escape character. -/
  | escapeIntermediate
  /-- A command with parameters. -/
  | control
  /-- A string for a device, before its parameters. -/
  | deviceStart
  | deviceParameter
  | deviceIntermediate
  /-- The inner part of a string, which a byte of its own ends. -/
  | string
  /-- A string for the system, which a bell ends. -/
  | systemString
  deriving DecidableEq

namespace ControlSequence

/-- A command with a further character; none if the character ends it. -/
def next : ControlSequence → Char → Option ControlSequence
  | .escape, '[' => some .control
  | .escape, 'P' => some .deviceStart
  | .escape, ']' => some .systemString
  | .escape, 'X' | .escape, '^' | .escape, '_' => some .string
  | .escape, character =>
    if isIntermediate character then some .escapeIntermediate
    else if isParameter character || isFinal character then none
    else some .escape
  | .escapeIntermediate, character =>
    if isParameter character || isFinal character then none else some .escapeIntermediate
  | .control, character => if isFinal character then none else some .control
  | .deviceStart, character =>
    if isFinal character then some .string
    else if isParameter character then some .deviceParameter
    else if isIntermediate character then some .deviceIntermediate
    else some .deviceStart
  | .deviceParameter, character =>
    if isFinal character || '<' ≤ character && isParameter character then some .string
    else if isIntermediate character then some .deviceIntermediate
    else some .deviceParameter
  | .deviceIntermediate, character =>
    if isParameter character || isFinal character then some .string
    else some .deviceIntermediate
  | .string, character => if hasStringEnd character then none else some .string
  | .systemString, character => if character = '\x07' then none else some .systemString

/-- Whether a blank in the midst of a command is carried out on the spot. Strings swallow it. -/
def showsBlanks : ControlSequence → Bool
  | .escape | .escapeIntermediate | .control => true
  | .deviceStart | .deviceParameter | .deviceIntermediate | .string | .systemString => false

end ControlSequence

/-! ### Texts -/

/-- What a terminal is in the midst of. -/
inductive Reception
  | plain
  | inside (sequence : ControlSequence)
  /-- A blank came inside of a command. Text is shown behind it, and a control character goes on
  with the command. -/
  | paused (sequence : ControlSequence)
  deriving DecidableEq

/-- What a terminal goes on with behind a character, and whether the character is shown. -/
def Reception.step (reception : Reception) (character : Char) : Reception × Bool :=
  if character = escapeCharacter then (.inside .escape, false)
  else if isCancel character then (.plain, false)
  else
    match reception with
    | .plain => (.plain, isShown character)
    | .inside sequence =>
      if isBlankControl character && sequence.showsBlanks then (.paused sequence, true)
      else
        match sequence.next character with
        | some longer => (.inside longer, false)
        | none => (.plain, false)
    | .paused sequence =>
      if isShown character then
        (if character.toNat < 0x80 then .paused sequence else .plain, true)
      else (.inside sequence, false)

/-- The characters of a text that a terminal shows. -/
def shownFrom (reception : Reception) : List Char → List Char
  | [] => []
  | character :: others =>
    let (further, shown) := reception.step character
    if shown then character :: shownFrom further others else shownFrom further others

/-- A text without commands and control characters. -/
def withoutControls (text : String) : String :=
  String.ofList (shownFrom .plain text.toList)

end TurtleScene.Text
