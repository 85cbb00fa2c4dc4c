import Reckoner.Pattern.CharClass
import Reckoner.Pattern.Edge

set_option autoImplicit false

namespace Reckoner.Pattern

inductive Atom where
  | char : Char → Atom
  | class : CharClass → Atom
  | edge : Edge → Atom
  deriving DecidableEq, Repr

def hexDigit? (c : Char) : Option Nat :=
  if c.isDigit then some (c.toNat - '0'.toNat)
  else if 'a' ≤ c ∧ c ≤ 'f' then some (c.toNat - 'a'.toNat + 10)
  else if 'A' ≤ c ∧ c ≤ 'F' then some (c.toNat - 'A'.toNat + 10)
  else none

def hexValue? (ds : List Char) : Option Nat :=
  ds.foldlM (fun n d => (hexDigit? d).map (16 * n + ·)) 0

def charOfHex? (ds : List Char) : Option Char := do
  let n ← hexValue? ds
  if ds ≠ [] ∧ n.isValidChar then some (.ofNat n) else none

def readHex? (count : Nat) : List Char → Option (Atom × List Char)
  | '\x7b' :: cs => do
    let digits := cs.takeWhile (· ≠ '\x7d')
    let '\x7d' :: rest := cs.dropWhile (· ≠ '\x7d') | none
    return (.char (← charOfHex? digits), rest)
  | cs => do
    if cs.length < count then none
    return (.char (← charOfHex? (cs.take count)), cs.drop count)

def isEdgeNameChar (c : Char) : Bool := c == '-' || c.isAlpha

def namedEdge? (name : List Char) : Option Edge :=
  if name = "start".toList then some .wordStart
  else if name = "end".toList then some .wordEnd
  else if name = "start-half".toList then some .noWordBefore
  else if name = "end-half".toList then some .noWordAfter
  else none

/-- The edge of a word, or one of its kinds named in braces; braces without a name are left. -/
def readWordEdge? : List Char → Option (Atom × List Char)
  | '\x7b' :: c :: cs =>
    if isEdgeNameChar c then do
      let e ← namedEdge? (c :: cs.takeWhile isEdgeNameChar)
      let '\x7d' :: rest := cs.dropWhile isEdgeNameChar | none
      return (.edge e, rest)
    else some (.edge .wordEdge, '\x7b' :: c :: cs)
  | cs => some (.edge .wordEdge, cs)

def readEscape? : List Char → Option (Atom × List Char)
  | [] => none
  | c :: cs =>
    match c with
    | 'd' => some (.class .digit, cs)
    | 'D' => some (.class CharClass.digit.complement, cs)
    | 's' => some (.class .blank, cs)
    | 'S' => some (.class CharClass.blank.complement, cs)
    | 'w' => some (.class .word, cs)
    | 'W' => some (.class CharClass.word.complement, cs)
    | 'a' => some (.char '\x07', cs)
    | 'f' => some (.char '\x0c', cs)
    | 't' => some (.char '\t', cs)
    | 'n' => some (.char '\n', cs)
    | 'r' => some (.char '\r', cs)
    | 'v' => some (.char '\x0b', cs)
    | 'A' => some (.edge .textStart, cs)
    | 'z' => some (.edge .textEnd, cs)
    | 'b' => readWordEdge? cs
    | 'B' => some (.edge .noWordEdge, cs)
    | '<' => some (.edge .wordStart, cs)
    | '>' => some (.edge .wordEnd, cs)
    | 'x' => readHex? 2 cs
    | 'u' => readHex? 4 cs
    | 'U' => readHex? 8 cs
    | _ =>
      if c.toNat < 0x80 ∧ ¬ c.isAlphanum then some (.char c, cs) else none

end Reckoner.Pattern
