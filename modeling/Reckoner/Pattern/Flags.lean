import Reckoner.Text.Blank

set_option autoImplicit false

namespace Reckoner.Pattern

structure Flags where
  ignoreCase : Bool := false
  multiLine : Bool := false
  dotAll : Bool := false
  returns : Bool := false
  /-- Repetitions are lazy unless a question mark follows. -/
  swapsGreed : Bool := false
  spaced : Bool := false
  deriving DecidableEq, Repr

namespace Flags

def set? (f : Flags) (on : Bool) : Char → Option Flags
  | 'i' => some { f with ignoreCase := on }
  | 'm' => some { f with multiLine := on }
  | 's' => some { f with dotAll := on }
  | 'R' => some { f with returns := on }
  | 'x' => some { f with spaced := on }
  | 'U' => some { f with swapsGreed := on }
  | 'u' => if on then some f else none
  | _ => none

/-- Reads flags up to the colon or bracket after them, which is left. Each may stand once, and so
may the minus that turns the later ones off; `seen` holds the letters before. -/
def read? (f : Flags) (seen : List Char) : List Char → Option (Flags × List Char × List Char)
  | [] => none
  | c :: cs =>
    if c = ':' ∨ c = ')' then
      if seen.head? = some '-' then none else some (f, seen, c :: cs)
    else if c ∈ seen then none
    else if c = '-' then f.read? (c :: seen) cs
    else do
      let f ← f.set? (!seen.contains '-') c
      f.read? (c :: seen) cs

def skip (f : Flags) (cs : List Char) : List Char :=
  if f.spaced then go false cs else cs
where
  /-- The mark tells whether a comment is open. -/
  go : Bool → List Char → List Char
    | _, [] => []
    | true, c :: cs => go (c != '\n') cs
    | false, c :: cs =>
      if Text.isBlank c then go false cs else if c = '#' then go true cs else c :: cs

end Flags

end Reckoner.Pattern
