/-
**The program.**

Reads the file that the command line names and writes the answer.
-/

import TurtleScene.Command.Answer

namespace TurtleScene.Command

/-- The reason for which the system refused to read a file. -/
def readErrorOf : IO.Error → ReadError
  | .inappropriateType _ 20 _ => .notFolder
  | .inappropriateType .. => .isFolder
  | _ => .notFound

/-- The text of a file of the system. -/
def readFile (path : String) : IO (Except ReadError String) := do
  try
    return textOfBytes (← IO.FS.readBinFile path)
  catch error =>
    return .error (readErrorOf error)

/-- Writes an answer and gives its exit code. -/
def Answer.write (answer : Answer) : IO UInt32 := do
  (← IO.getStdout).putStr answer.output
  (← IO.getStderr).putStr answer.errorOutput
  return answer.exitCode.toUInt32

end TurtleScene.Command

open TurtleScene.Command

/-- Answers a command line. -/
def main (arguments : List String) : IO UInt32 := do
  match request arguments with
  | .done answer => answer.write
  | .check options => (options.answer (← readFile options.input)).write
