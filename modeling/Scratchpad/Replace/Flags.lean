/-!
# Pattern flags

The letters behind the pattern of a rule.  Every replacement is global and every pattern is read as
Unicode, so `g` and `u` say nothing new.

* `PatternFlags` — what the letters ask for.
* `PatternFlags.ofLetters` — read the letters.
* `PatternFlags.directive` — the flags as a pattern sets them for itself.
-/

namespace Scratchpad

/-- What the flag letters of a pattern ask for. -/
structure PatternFlags where
  ignoreCase : Bool := false
  multiLine : Bool := false
  dotAll : Bool := false
  deriving DecidableEq, Repr

namespace PatternFlags

/-- Without letters, `^` and `$` match at every line. -/
def default : PatternFlags := { multiLine := true }

/-- The flags with one letter more, if that letter is known. -/
def addLetter? (f : PatternFlags) (letter : Char) : Option PatternFlags :=
  if letter = 'g' || letter = 'u' then some f
  else if letter = 'i' then some { f with ignoreCase := true }
  else if letter = 'm' then some { f with multiLine := true }
  else if letter = 's' then some { f with dotAll := true }
  else none

/-- Add letters from the left, up to the first one that is unknown. -/
def addLetters (f : PatternFlags) : List Char → Except Char PatternFlags
  | [] => .ok f
  | c :: cs =>
    match f.addLetter? c with
    | some f => f.addLetters cs
    | none => .error c

/-- The flags that letters stand for, or the first unknown letter.  Letters replace the default
flags and do not add to them. -/
def ofLetters (letters : String) : Except Char PatternFlags :=
  if letters.isEmpty then .ok default else addLetters {} letters.toList

/-- The flags written as a pattern sets them for itself. -/
def directive (f : PatternFlags) : String :=
  let letters :=
    (if f.ignoreCase then "i" else "") ++ (if f.multiLine then "m" else "") ++
      (if f.dotAll then "s" else "")
  if letters.isEmpty then "" else "(?" ++ letters ++ ")"

end PatternFlags

end Scratchpad
