/-
**A folder and the files in it.**

* `Folder.read` follows a path through a folder, as a file system does, and reads the text of the
  file it leads to. What lies outside the folder is unknown and counts as missing.
-/

namespace TurtleScene

/-- The reasons for which a file has no text. -/
inductive ReadError
  | notFound
  | isFolder
  /-- A part of the path goes through a file. -/
  | notFolder
  | notText
  deriving DecidableEq

/-- The wording of a reason. -/
def ReadError.message : ReadError → String
  | .notFound => "No such file or directory (os error 2)"
  | .isFolder => "Is a directory (os error 21)"
  | .notFolder => "Not a directory (os error 20)"
  | .notText => "stream did not contain valid UTF-8"

/-- The text that bytes encode. -/
def textOfBytes (bytes : ByteArray) : Except ReadError String :=
  match String.fromUTF8? bytes with
  | some text => .ok text
  | none => .error .notText

/-- What stands at a path. -/
inductive Entry
  | file (bytes : ByteArray)
  | folder

/-- The entries of a folder by their paths in it, the parts of each path from the outside in. -/
structure Folder where
  entries : List (List String × Entry)

/-- The parts of a path between its slashes. -/
def pathParts (path : String) : List String :=
  (path.toList.splitOn '/').map String.ofList

namespace Folder

/-- Whether a part of a path stays where it is. -/
def staysInPlace (part : String) : Bool := part = "" || part = "."

/-- The entries that come with an entry at the end of a path behind `path`: the entry, and the
folders that the path enters and leaves again. -/
def entriesAlong (entry : Entry) (path : List String) : List String → List (List String × Entry)
  | [] => [(path, entry)]
  | part :: parts =>
    if staysInPlace part then entriesAlong entry path parts
    else if part = ".." then (path, .folder) :: entriesAlong entry path.dropLast parts
    else entriesAlong entry (path ++ [part]) parts

/-- The folder of entries whose paths are written with slashes. -/
def ofList (entries : List (String × Entry)) : Folder :=
  ⟨entries.flatMap fun (path, entry) => entriesAlong entry [] (pathParts path)⟩

/-- What stands at a path: the last entry with the path, and a folder where a longer path goes
through. -/
def find? (folder : Folder) (path : List String) : Option Entry :=
  match folder.entries.reverse.lookup path with
  | some entry => some entry
  | none =>
    if path = [] ∨ folder.entries.any fun (other, _) => path.isPrefixOf other then some .folder
    else none

/-- A place that a path has led to: inside the folder, or a number of folders outside it. -/
inductive Place
  | inside (path : List String) (entry : Entry)
  | outside (distance : Nat)

/-- The place one part of a path further on. Only a folder leads on. -/
def step (folder : Folder) (place : Place) (part : String) : Except ReadError Place :=
  match place with
  | .inside _ (.file _) => .error .notFolder
  | .inside path .folder =>
    if staysInPlace part then .ok place
    else if part = ".." then
      if path = [] then .ok (.outside 1) else .ok (.inside path.dropLast .folder)
    else
      match folder.find? (path ++ [part]) with
      | some entry => .ok (.inside (path ++ [part]) entry)
      | none => .error .notFound
  | .outside distance =>
    if staysInPlace part then .ok place
    else if part = ".." then .ok (.outside (distance + 1))
    else .error .notFound

/-- The text of the file that a path leads to. A path that begins with a slash begins outside. -/
def read (folder : Folder) (path : String) : Except ReadError String := do
  let parts := pathParts path
  let start := if parts.head? = some "" then Place.outside 1 else .inside [] .folder
  match ← parts.foldlM folder.step start with
  | .inside _ (.file bytes) => textOfBytes bytes
  | .inside _ .folder | .outside _ => throw .isFolder

end Folder

end TurtleScene
