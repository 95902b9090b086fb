/-
**What the command line knows and how it answers misuse.**

* `Choice` lists the options that shape a check, and `Information` those that ask about the program.
* `OptionName.similar?` guesses which option an unknown name was meant to be.
* `Usage` is the way in which a misuse shows how the program is called: with any options, or with
  those that were used.
* `UsageError.render` words each misuse in blocks with empty lines between them. Arguments are
  quoted without what would steer the terminal.
-/

import TurtleScene.Text.ControlSequence
import TurtleScene.Text.Similarity

namespace TurtleScene.Command

/-- The options without a value that shape a check. -/
inductive Choice
  | verbose
  | dumpScene
  | dumpTokens
  deriving DecidableEq

/-- The long name of an option, without its dashes. -/
def Choice.name : Choice → String
  | .verbose => "verbose"
  | .dumpScene => "dump-ast"
  | .dumpTokens => "dump-tokens"

/-- The requests for information. -/
inductive Information
  | help
  | version
  deriving DecidableEq

/-- The long name of a request, without its dashes. -/
def Information.name : Information → String
  | .help => "help"
  | .version => "version"

/-- The options of the command line. -/
inductive OptionName
  | choice (choice : Choice)
  | information (information : Information)
  /-- Accepts a colour, which is its value. -/
  | color
  deriving DecidableEq

namespace OptionName

/-- Every option, in the order in which the help lists them. -/
def all : List OptionName :=
  [.color, .choice .verbose, .choice .dumpScene, .choice .dumpTokens, .information .help,
    .information .version]

/-- The long name of an option, without its dashes. -/
def long : OptionName → String
  | .choice made => made.name
  | .information asked => asked.name
  | .color => "allow-color"

/-- The written form of an option in messages. -/
def render (option : OptionName) : String :=
  "--" ++ option.long ++ if option = .color then " <NAME>" else ""

/-- The option with a long name. -/
def ofLong? (name : String) : Option OptionName := all.find? fun option => option.long == name

/-- The option that a letter stands for. -/
def ofLetter? : Char → Option OptionName
  | 'v' => some (.choice .verbose)
  | 'h' => some (.information .help)
  | 'V' => some (.information .version)
  | _ => none

theorem ofLong?_long (option : OptionName) : ofLong? option.long = some option := by
  cases option with
  | choice made => cases made <;> decide
  | information asked => cases asked <;> decide
  | color => decide

/-- Names that are more alike than this, seven tenths, are taken for each other. -/
def similarityBound : Nat := Binary64.nearest 7 10

/-- The more similar one of two options with their similarities; of equal ones the second. -/
def closer (best : Option (OptionName × Nat)) (other : OptionName × Nat) :
    Option (OptionName × Nat) :=
  match best with
  | some found => if other.2 < found.2 then some found else some other
  | none => some other

/-- The option that is probably meant by a name: the one whose long name is most like it, if any is
like it enough. -/
def similar? (name : String) : Option OptionName :=
  let rated := all.map fun option => (option, Text.similarity name option.long)
  let similar := rated.filter fun candidate => similarityBound < candidate.2
  (similar.foldl closer none).map Prod.fst

end OptionName

/-- How the program is called, as far as a misuse shows it. -/
inductive Usage
  /-- With any options. -/
  | general
  /-- With some options. -/
  | withOptions (options : List OptionName)
  /-- With one of the arguments that shape a check, and a request for information in front of it. -/
  | withOneOf (asked : Option Information)
  deriving DecidableEq

/-- The argument that names the file, in messages. -/
def inputPlaceholder : String := "INPUT"

namespace Usage

/-- The arguments that shape a check, as alternatives. -/
def alternatives : String :=
  "|".intercalate
    (inputPlaceholder ::
      [OptionName.color, .choice .verbose, .choice .dumpScene, .choice .dumpTokens].map
        OptionName.render)

/-- The options in front of the last argument, and that argument without its brackets. -/
def parts : Usage → List String × String
  | .general => (["[OPTIONS]"], inputPlaceholder)
  | .withOptions options => (options.map OptionName.render, inputPlaceholder)
  | .withOneOf asked =>
    (asked.toList.map fun information => OptionName.render (.information information), alternatives)

/-- The line that shows how the program is called. -/
def render (usage : Usage) : String :=
  let (options, last) := usage.parts
  "Usage: " ++ " ".intercalate ("shapec" :: options ++ ["<" ++ last ++ ">"])

end Usage

/-- The misuses of the command line. -/
inductive UsageError
  /-- No file is named; the options that were used. -/
  | missingInput (used : List OptionName)
  /-- A file is named after another one. -/
  | surplusInput (argument : String)
  /-- There is no such option; the one that is probably meant. -/
  | unknownOption (argument : String) (similar : Option OptionName) (usage : Usage)
  | repeatedOption (option : OptionName)
  | missingColor
  /-- The name of the file is empty. -/
  | emptyInput
  /-- An option has a value that it does not take. -/
  | unexpectedValue (value : String) (option : OptionName) (usage : Usage)
  deriving DecidableEq

namespace UsageError

/-- The complaint about an argument that has no meaning. -/
def unexpectedArgument (argument : String) : String :=
  "unexpected argument '" ++ argument ++ "' found"

/-- The complaint about a missing value. -/
def missingValue (argument : String) : String :=
  "a value is required for '" ++ argument ++ "' but none was supplied"

/-- What was wrong, and advice and usage where there is any. -/
def blocks : UsageError → List String
  | .missingInput used =>
    ["the following required arguments were not provided:\n  <" ++ inputPlaceholder ++ ">",
      (Usage.withOptions used).render]
  | .surplusInput argument =>
    [unexpectedArgument (Text.withoutControls argument), Usage.general.render]
  | .unknownOption argument similar usage =>
    let shown := Text.withoutControls argument
    let advice := match similar with
      | some option => "a similar argument exists: '--" ++ option.long ++ "'"
      | none => "to pass '" ++ shown ++ "' as a value, use '-- " ++ shown ++ "'"
    [unexpectedArgument shown, "  tip: " ++ advice, usage.render]
  | .repeatedOption option =>
    ["the argument '" ++ option.render ++ "' cannot be used multiple times", Usage.general.render]
  | .missingColor => [missingValue (OptionName.render .color)]
  | .emptyInput => [missingValue ("<" ++ inputPlaceholder ++ ">")]
  | .unexpectedValue value option usage =>
    ["unexpected value '" ++ Text.withoutControls value ++ "' for '" ++ option.render ++
        "' found; no more were expected", usage.render]

/-- The text of a misuse. -/
def render (error : UsageError) : String :=
  "error: " ++ "\n\n".intercalate (error.blocks ++ ["For more information, try '--help'."]) ++ "\n"

end UsageError

/-- The text that answers a request for information. -/
def Information.render : Information → String
  | .version => "shapec 0.1.0\n"
  | .help =>
    "Checks turtle-graphics shape scenes for semantic errors\n\n" ++
    "Usage: shapec [OPTIONS] <INPUT>\n\n" ++
    "Arguments:\n" ++
    "  <INPUT>  Input source file (.shape)\n\n" ++
    "Options:\n" ++
    "      --allow-color <NAME>  Accept an extra named pencil color (repeatable)\n" ++
    "  -v, --verbose             Verbose output\n" ++
    "      --dump-ast            Dump AST (for debugging)\n" ++
    "      --dump-tokens         Dump tokens (for debugging)\n" ++
    "  -h, --help                Print help\n" ++
    "  -V, --version             Print version\n"

end TurtleScene.Command
