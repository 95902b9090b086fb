/-
**Reading a command line.**

Arguments are judged from left to right, and the first misuse or request for information ends the
reading. What an argument leaves open, the value of an option or the name of the file, is settled
only when the next option comes or the arguments end; so a misuse in between is told first.

* `readArguments` gives the options of a check, or what ended the reading.
-/

import TurtleScene.Command.Usage

namespace TurtleScene.Command

/-- What a command line asks for. -/
structure Options where
  input : String
  /-- Named colours to accept, in the order in which they were given. -/
  colors : List String
  choices : List Choice
  deriving DecidableEq

/-- What ends the reading of a command line before a check. -/
inductive Stop
  | misuse (error : UsageError)
  | inform (information : Information)
  deriving DecidableEq

/-! ### Words -/

/-- An argument by its form. -/
inductive Word
  /-- Two dashes: all that follow name files. -/
  | separator
  /-- A name behind two dashes, and the value behind an equals sign. -/
  | long (name : String) (value : Option String)
  /-- Letters behind one dash. -/
  | short (letters : List Char)
  | plain
  deriving DecidableEq

/-- The form of an argument. A single dash is a plain word. -/
def Word.ofArgument (argument : String) : Word :=
  match argument.toList with
  | ['-', '-'] => .separator
  | '-' :: '-' :: text =>
    let name := String.ofList (text.takeWhile (· ≠ '='))
    match text.dropWhile (· ≠ '=') with
    | [] => .long name none
    | _ :: value => .long name (some (String.ofList value))
  | '-' :: letter :: letters => .short (letter :: letters)
  | _ => .plain

/-! ### Progress -/

/-- What an argument leaves to be settled. -/
inductive Pending
  | nothing
  /-- The value of the colour option. -/
  | color
  /-- The colour option, its value known. -/
  | colorValue (color : String)
  /-- The name of the file. -/
  | input (name : String)
  deriving DecidableEq

/-- What was read so far. -/
structure Progress where
  input : Option String
  colors : List String
  choices : List Choice
  /-- The options in the order of their first use. -/
  used : List OptionName
  pending : Pending
  deriving DecidableEq

namespace Progress

/-- Before the first argument. -/
def start : Progress := ⟨none, [], [], [], .nothing⟩

/-- Notes the use of an option. -/
def use (progress : Progress) (option : OptionName) : Progress :=
  if option ∈ progress.used then progress
  else { progress with used := progress.used ++ [option] }

/-- Accepts a colour. -/
def addColor (progress : Progress) (color : String) : Progress :=
  { progress.use .color with colors := progress.colors ++ [color], pending := .nothing }

/-- Settles what is pending. -/
def settle (progress : Progress) : Except Stop Progress :=
  match progress.pending with
  | .nothing => .ok progress
  | .color => .error (.misuse .missingColor)
  | .colorValue color => .ok (progress.addColor color)
  | .input "" => .error (.misuse .emptyInput)
  | .input name => .ok { progress with input := some name, pending := .nothing }

/-- Whether a file was named. -/
def hasInput (progress : Progress) : Bool :=
  match progress.pending with
  | .input _ => true
  | .nothing | .color | .colorValue _ => progress.input.isSome

/-- The usage shown to someone who asks for an option that does not exist: with the options that
were used, and behind them the one that is probably meant. What is pending counts as used if it can
be settled, and a file even if it has no name. -/
def usage (progress : Progress) (similar : Option OptionName) : Usage :=
  let settled := progress.settle.toOption.getD progress
  let used := (similar.toList.foldl use settled).used
  if used = [] ∧ progress.hasInput = false then .general else .withOptions used

/-- The usage shown to someone who gives an option a value that it does not take: with the option,
or with any of the arguments that shape a check if one of them was settled before. -/
def usageOf (progress : Progress) (option : OptionName) : Usage :=
  if progress.used = [] ∧ progress.input = none then .withOptions [option]
  else
    match option with
    | .information information => .withOneOf (some information)
    | .choice _ | .color => .withOneOf none

/-- Makes a choice, which can be made only once. -/
def choose (progress : Progress) (choice : Choice) : Except Stop Progress := do
  let settled ← progress.settle
  if choice ∈ settled.choices then throw (.misuse (.repeatedOption (.choice choice)))
  return { settled.use (.choice choice) with choices := settled.choices ++ [choice] }

/-- Asks for information. -/
def inform (progress : Progress) (information : Information) : Except Stop Progress := do
  discard progress.settle
  throw (.inform information)

/-- Names the file, which can be done only once. -/
def nameInput (progress : Progress) (argument : String) : Except Stop Progress := do
  if progress.hasInput then throw (.misuse (.surplusInput argument))
  return { ← progress.settle with pending := .input argument }

/-- The options of a check, if a file was named. -/
def finish (progress : Progress) : Except Stop Options := do
  let settled ← progress.settle
  match settled.input with
  | some input => return ⟨input, settled.colors, settled.choices⟩
  | none => throw (.misuse (.missingInput settled.used))

end Progress

/-! ### Arguments -/

/-- Reads an option that has no value beside it. -/
def readOption (progress : Progress) : OptionName → Except Stop Progress
  | .choice choice => progress.choose choice
  | .information information => progress.inform information
  | .color => do return { ← progress.settle with pending := .color }

/-- Reads an option by its long name. -/
def readLong (progress : Progress) (name : String) (value : Option String) :
    Except Stop Progress :=
  match OptionName.ofLong? name, value with
  | some .color, some color => do return (← progress.settle).addColor color
  | some option, none => readOption progress option
  | some option, some given =>
    .error (.misuse (.unexpectedValue given option (progress.usageOf option)))
  | none, _ =>
    let similar := OptionName.similar? name
    .error (.misuse (.unknownOption ("--" ++ name) similar (progress.usage similar)))

/-- Reads options by their letters. -/
def readShort (progress : Progress) : List Char → Except Stop Progress
  | [] => .ok progress
  | letter :: letters =>
    match OptionName.ofLetter? letter with
    | some option => do readShort (← readOption progress option) letters
    | none => .error (.misuse (.unknownOption ("-" ++ String.singleton letter) none .general))

/-- Reads a word that is no option: the value of an option that waits for one, or a file. -/
def readPlain (progress : Progress) (argument : String) : Except Stop Progress :=
  if progress.pending = .color then .ok { progress with pending := .colorValue argument }
  else progress.nameInput argument

/-- Reads arguments up to the end. -/
def readFrom (progress : Progress) : List String → Except Stop Progress
  | [] => .ok progress
  | argument :: others =>
    match Word.ofArgument argument with
    | .separator => others.foldlM Progress.nameInput progress
    | .long name value => do readFrom (← readLong progress name value) others
    | .short letters => do readFrom (← readShort progress letters) others
    | .plain => do readFrom (← readPlain progress argument) others

/-- The options that a command line asks for, or what ends its reading. -/
def readArguments (arguments : List String) : Except Stop Options := do
  (← readFrom .start arguments).finish

end TurtleScene.Command
