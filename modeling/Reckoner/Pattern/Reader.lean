import Reckoner.Pattern.Bracketed
import Reckoner.Pattern.Regular
import Reckoner.Text.Alphanumeric

/-! Reads a pattern as a regular expression, or refuses it. The text is read from left to right
with the open groups on a stack; each turn takes one character at least. Structure may nest up to a
height: a sequence, a choice, a repetition, a group or a set is one higher than what it holds.
-/

set_option autoImplicit false

namespace Reckoner.Pattern

def heightLimit : Nat := 250

structure Item where
  regular : Regular
  height : Nat := 0
  repeatable : Bool := true

def highest (items : List Item) : Nat :=
  let height := (items.map (·.height)).foldl max 0
  if 1 < items.length then height + 1 else height

/-- A group that is not closed yet. The sides of its choice come last first, and so do the items
after them. -/
structure OpenGroup where
  sides : List Item := []
  items : List Item := []
  captures : Bool := false
  outer : Flags := {}

namespace OpenGroup

def add (g : OpenGroup) (i : Item) : OpenGroup := { g with items := i :: g.items }

def sequence (g : OpenGroup) : Item :=
  { regular := .concat (g.items.reverse.map (·.regular)), height := highest g.items }

def bar (g : OpenGroup) : OpenGroup := { g with sides := g.sequence :: g.sides, items := [] }

def value (g : OpenGroup) : Item :=
  if g.sides.isEmpty then g.sequence
  else
    let sides := g.sequence :: g.sides
    { regular := .oneOf heightLimit (sides.reverse.map (·.regular)), height := highest sides }

def close (g : OpenGroup) : Item :=
  let v := g.value
  { regular := if g.captures then .group v.regular else v.regular, height := v.height + 1 }

end OpenGroup

structure Reading where
  groups : List OpenGroup := []
  current : OpenGroup := {}
  flags : Flags := {}
  names : List (List Char) := []

namespace Reading

def add (s : Reading) (i : Item) : Reading := { s with current := s.current.add i }

def addChar (s : Reading) (c : Char) : Reading :=
  let r := if s.flags.ignoreCase then Regular.ofClass (CharClass.single c).folded else .text [c]
  s.add { regular := r }

def addAtom (s : Reading) : Atom → Reading
  | .char c => s.addChar c
  | .class k => s.add { regular := .ofClass k }
  | .edge e => s.add { regular := .edge e }

def opened (s : Reading) (captures : Bool) (inner : Flags) : Reading :=
  let current := { captures, outer := s.flags }
  { s with groups := s.current :: s.groups, current, flags := inner }

def close? (s : Reading) : Option Reading :=
  match s.groups with
  | [] => none
  | g :: groups =>
    let i := s.current.close
    if i.height ≤ heightLimit then
      some { s with groups, current := g.add i, flags := s.current.outer }
    else none

def repeat? (s : Reading) (low : Nat) (high : Option Nat) (greedy : Bool) : Option Reading :=
  match s.current.items with
  | i :: items =>
    if i.repeatable ∧ i.height < heightLimit then
      let i := { regular := i.regular.times low high greedy, height := i.height + 1 }
      some { s with current := { s.current with items := i :: items } }
    else none
  | [] => none

/-- Flags alone stand in a sequence too, but cannot be repeated. -/
def setFlags (s : Reading) (flags : Flags) : Reading :=
  { s with flags, current := s.current.add { regular := .empty, repeatable := false } }

end Reading

def isNameChar (first : Bool) (c : Char) : Bool :=
  if first then c == '_' || Text.isAlphabetic c
  else c == '_' || c == '.' || c == '[' || c == ']' || Text.isAlphanumeric c

def openNamed? (s : Reading) (cs : List Char) : Option (Reading × List Char) := do
  let name := cs.takeWhile (· ≠ '>')
  let '>' :: rest := cs.dropWhile (· ≠ '>') | none
  let first ← name.head?
  if isNameChar true first && name.tail.all (isNameChar false) && !s.names.contains name then
    some ({ s.opened true s.flags with names := name :: s.names }, rest)
  else none

/-- What follows the opening bracket of a group. Looking around is not supported. -/
def openGroup? (s : Reading) (cs : List Char) : Option (Reading × List Char) :=
  match s.flags.skip cs with
  | '?' :: 'P' :: '<' :: cs => openNamed? s cs
  | '?' :: '<' :: cs => openNamed? s cs
  | '?' :: cs => do
    let (flags, seen, rest) ← s.flags.read? [] cs
    match rest with
    | ':' :: rest => some (s.opened false flags, rest)
    | ')' :: rest => if seen.isEmpty then none else some (s.setFlags flags, rest)
    | _ => none
  | cs => some (s.opened true s.flags, cs)

def readGreed (f : Flags) : List Char → Bool × List Char
  | '?' :: cs => (f.swapsGreed, cs)
  | cs => (!f.swapsGreed, cs)

def readCount? (cs : List Char) : Option (Nat × List Char) :=
  let cs := cs.dropWhile Text.isBlank
  let digits := cs.takeWhile Char.isDigit
  let n := digits.foldl (fun n d => 10 * n + (d.toNat - '0'.toNat)) 0
  if digits ≠ [] ∧ n < 4294967296 then
    some (n, (cs.dropWhile Char.isDigit).dropWhile Text.isBlank)
  else none

def readBounds? (f : Flags) (cs : List Char) : Option (Nat × Option Nat × List Char) := do
  let (low, rest) ← readCount? (f.skip cs)
  match rest with
  | '\x7d' :: rest => some (low, some low, rest)
  | ',' :: rest =>
    match f.skip rest with
    | '\x7d' :: rest => some (low, none, rest)
    | rest => do
      let (high, rest) ← readCount? rest
      let '\x7d' :: rest := rest | none
      if low ≤ high then some (low, some high, rest) else none
  | _ => none

def readRepetition? (s : Reading) (low : Nat) (high : Option Nat) (cs : List Char) :
    Option (Reading × List Char) := do
  let (greedy, cs) := readGreed s.flags cs
  return (← s.repeat? low high greedy, cs)

def lineEdge (f : Flags) (start : Bool) : Edge :=
  match f.multiLine, f.returns, start with
  | false, _, true => .textStart
  | false, _, false => .textEnd
  | true, false, true => .lineStart
  | true, false, false => .lineEnd
  | true, true, true => .returnLineStart
  | true, true, false => .returnLineEnd

def dot (f : Flags) : CharClass :=
  if f.dotAll then .any
  else if f.returns then (CharClass.lineFeed.union (.single '\r')).complement
  else CharClass.lineFeed.complement

def readItem? (s : Reading) (c : Char) (cs : List Char) : Option (Reading × List Char) :=
  match c with
  | '(' => openGroup? s cs
  | ')' => do return (← s.close?, cs)
  | '|' => some ({ s with current := s.current.bar }, cs)
  | '*' => readRepetition? s 0 none cs
  | '+' => readRepetition? s 1 none cs
  | '?' => readRepetition? s 0 (some 1) cs
  | '\x7b' => do
    let (low, high, cs) ← readBounds? s.flags cs
    readRepetition? s low high (s.flags.skip cs)
  | '[' => do
    let (m, cs) ← readBracketed? s.flags cs
    return (s.add { regular := .ofClass m.set, height := m.height }, cs)
  | '\\' => do
    let (a, cs) ← readEscape? cs
    return (s.addAtom a, cs)
  | '.' => some (s.add { regular := .ofClass (dot s.flags) }, cs)
  | '^' => some (s.add { regular := .edge (lineEdge s.flags true) }, cs)
  | '$' => some (s.add { regular := .edge (lineEdge s.flags false) }, cs)
  | c => some (s.addChar c, cs)

def readAll? : (fuel : Nat) → Reading → List Char → Option Item
  | 0, _, _ => none
  | fuel + 1, s, cs =>
    match s.flags.skip cs with
    | [] => if s.groups.isEmpty then some s.current.value else none
    | c :: cs =>
      match readItem? s c cs with
      | some (s, cs) => readAll? fuel s cs
      | none => none

def Regular.read? (cs : List Char) : Option Regular := do
  let i ← readAll? (cs.length + 1) {} cs
  if i.height ≤ heightLimit then some i.regular else none

end Reckoner.Pattern
