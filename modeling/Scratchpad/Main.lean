import Scratchpad.CommandLine.World

/-!
# The program

Everything that touches the world: reading files and standard input, printing, and the exit code.
-/

namespace Scratchpad

open CommandLine

/-- The number of an error of the system, which may come with the opposite sign. -/
def errorNumber (code : UInt32) : Nat := (min code (0 - code)).toNat

/-- What an error of the system means for the reader of a message. -/
def readError : IO.Error → ReadError
  | .noFileOrDirectory _ _ _ => .notFound
  | .permissionDenied _ _ _ => .permissionDenied
  | .inappropriateType _ code _ => if errorNumber code = 20 then .notDirectory else .isDirectory
  | .invalidArgument _ code _ =>
    if errorNumber code = 36 then .nameTooLong else .other "Invalid argument (os error 22)"
  | e => .other (toString e)

/-- Read a source. -/
def readWorld : Source → IO (Except ReadError String)
  | .file path => do
    match ← (IO.FS.readBinFile path).toBaseIO with
    | .ok bytes => return decode bytes
    | .error e => return .error (readError e)
  | .standardInput => do return decode (← (← IO.getStdin).readBinToEnd)

end Scratchpad

open Scratchpad.CommandLine in
/-- Run the program with the arguments of the command line. -/
def main (arguments : List String) : IO UInt32 := do
  let outcome ← execute Scratchpad.readWorld arguments
  (← IO.getStderr).putStr outcome.stderr
  (← IO.getStdout).putStr outcome.stdout
  return outcome.code.toUInt32
