import Scratchpad.CommandLine.Execute

/-!
# What a program can read

The files of a directory and the standard input, as bytes.

* `decode` — bytes as text.
* `World` — a directory with its files, and a standard input.
* `World.read` — read a source.
-/

namespace Scratchpad.CommandLine

/-- Bytes as text, if they are one. -/
def decode (bytes : ByteArray) : Except ReadError String :=
  match String.fromUTF8? bytes with
  | some s => .ok s
  | none => .error .notUtf8

/-- A directory with its files, and a standard input. -/
structure World where
  files : List (String × ByteArray) := []
  standardInput : ByteArray := .empty

/-- The steps of a path; those that stay where they are do not count. -/
def pathSteps (path : String) : List (List Char) :=
  (Text.splitOn ['/'] path.toList).filter fun s => !s.isEmpty && s != ['.']

/-- Whether a path can only be that of a directory. -/
def wantsDirectory (path : String) : Bool :=
  let last := (Text.splitOn ['/'] path.toList).getLast?
  last == some [] || last == some ['.'] || last == some ['.', '.']

/-- The number of bytes that the name of a file may take. -/
def maxNameSize : Nat := 255

namespace World

/-- Read a file.  A path leads to a directory if a file lies behind it, and nothing lies behind a
file.  All files lie in the directory from which relative paths begin. -/
def readFile (w : World) (path : String) : Except ReadError String :=
  let steps := pathSteps path
  let isDirectory := steps.all (· == ['.', '.']) || w.files.any fun f =>
    steps.isPrefixOf (pathSteps f.1) && steps.length < (pathSteps f.1).length
  let beyondFile := w.files.any fun f =>
    (pathSteps f.1).isPrefixOf steps && (pathSteps f.1).length < steps.length
  if path.toList.head? = some '/' && !steps.isEmpty then .error .notFound
  else match w.files.find? fun f => pathSteps f.1 == steps with
    | some f => if wantsDirectory path then .error .notDirectory else decode f.2
    | none =>
      if isDirectory then .error .isDirectory
      else if beyondFile then .error .notDirectory
      else if steps.head?.any (maxNameSize < Text.byteSize ·) then .error .nameTooLong
      else .error .notFound

/-- Read a source. -/
def read (w : World) : Source → Except ReadError String
  | .file path => w.readFile path
  | .standardInput => decode w.standardInput

end World

/-- What the program prints in a world, and its exit code. -/
def World.run (w : World) (arguments : List String) : Outcome :=
  execute (m := Id) w.read arguments

end Scratchpad.CommandLine
