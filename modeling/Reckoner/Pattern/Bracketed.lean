import Reckoner.Pattern.Escape
import Reckoner.Pattern.Flags

set_option autoImplicit false

namespace Reckoner.Pattern

def closeSet (f : Flags) (negated : Bool) (k : CharClass) : CharClass :=
  let k := if f.ignoreCase then k.folded else k
  if negated then k.complement else k

inductive SetOperator where
  | intersection | difference | exclusive
  deriving DecidableEq, Repr

def SetOperator.apply (f : Flags) (op : SetOperator) (a b : CharClass) : CharClass :=
  let a := closeSet f false a
  let b := closeSet f false b
  match op with
  | .intersection => a.inter b
  | .difference => a.difference b
  | .exclusive => a.exclusive b

/-- A set with the height of its structure: a union of members, an operator or a pair of brackets
is one higher than what it holds. -/
structure Member where
  set : CharClass
  height : Nat
  deriving Repr

structure OpenSet where
  negated : Bool
  waiting : Option (SetOperator × Member) := none
  members : List Member := []
  deriving Repr

namespace OpenSet

def add (s : OpenSet) (m : Member) : OpenSet := { s with members := m :: s.members }

def union (s : OpenSet) : Member :=
  let height := (s.members.map (·.height)).foldl max 0
  ⟨(s.members.map (·.set)).foldr .union .nothing,
    if 1 < s.members.length then height + 1 else height⟩

def value (f : Flags) (s : OpenSet) : Member :=
  match s.waiting with
  | none => s.union
  | some (op, left) =>
    let right := s.union
    ⟨op.apply f left.set right.set, max left.height right.height + 1⟩

def operator (f : Flags) (s : OpenSet) (op : SetOperator) : OpenSet :=
  { s with waiting := some (op, s.value f), members := [] }

def close (f : Flags) (s : OpenSet) : Member :=
  let v := s.value f
  ⟨closeSet f s.negated v.set, v.height + 1⟩

end OpenSet

def readSetAtom? : List Char → Option (Atom × List Char)
  | [] => none
  | '\\' :: cs => readEscape? cs
  | c :: cs => some (.char c, cs)

/-- A range, or a single member where no range follows: a minus before the end of the set or before
another minus makes none. -/
def readMember? (f : Flags) (cs : List Char) : Option (CharClass × List Char) := do
  let (first, rest) ← readSetAtom? cs
  let rest := f.skip rest
  let next ← rest.head?
  let afterMinus := f.skip rest.tail
  if next ≠ '-' ∨ afterMinus.head? = some ']' ∨ afterMinus.head? = some '-' then
    match first with
    | .char c => some (.single c, rest)
    | .class k => some (k, rest)
    | .edge _ => none
  else
    let (last, rest) ← readSetAtom? afterMinus
    match first, last with
    | .char a, .char b => if a ≤ b then some (.between a b, rest) else none
    | _, _ => none

def readNamed? (f : Flags) : List Char → Option (CharClass × List Char)
  | ':' :: cs => do
    let (negated, cs) := match cs with
      | '^' :: cs => (true, cs)
      | cs => (false, cs)
    let ':' :: ']' :: rest := cs.dropWhile (· ≠ ':') | none
    let k ← CharClass.named? (cs.takeWhile (· ≠ ':'))
    some (closeSet f negated k, rest)
  | _ => none

def takeMinuses (f : Flags) : (count : Nat) → OpenSet → List Char → OpenSet × List Char
  | count + 1, s, '-' :: cs => takeMinuses f count (s.add ⟨.single '-', 0⟩) (f.skip cs)
  | _, s, cs => (s, cs)

def startSet (f : Flags) (cs : List Char) : OpenSet × List Char :=
  let (negated, cs) := match f.skip cs with
    | '^' :: cs => (true, f.skip cs)
    | cs => (false, cs)
  match takeMinuses f cs.length { negated } cs with
  | (s, ']' :: cs) => if s.members.isEmpty then (s.add ⟨.single ']', 0⟩, cs) else (s, ']' :: cs)
  | (s, cs) => (s, cs)

/-- Reads up to the bracket that closes the outermost set; `outer` holds the sets around `s`. -/
def readSet? (f : Flags) : (fuel : Nat) → (outer : List OpenSet) → OpenSet → List Char →
    Option (Member × List Char)
  | 0, _, _, _ => none
  | fuel + 1, outer, s, cs =>
    match f.skip cs with
    | [] => none
    | ']' :: cs =>
      match outer with
      | [] => some (s.close f, cs)
      | o :: outer => readSet? f fuel outer (o.add (s.close f)) cs
    | '&' :: '&' :: cs => readSet? f fuel outer (s.operator f .intersection) cs
    | '-' :: '-' :: cs => readSet? f fuel outer (s.operator f .difference) cs
    | '~' :: '~' :: cs => readSet? f fuel outer (s.operator f .exclusive) cs
    | '[' :: cs =>
      match readNamed? f cs with
      | some (k, cs) => readSet? f fuel outer (s.add ⟨k, 0⟩) cs
      | none =>
        let (inner, cs) := startSet f cs
        readSet? f fuel (s :: outer) inner cs
    | cs =>
      match readMember? f cs with
      | some (k, cs) => readSet? f fuel outer (s.add ⟨k, 0⟩) cs
      | none => none

def readBracketed? (f : Flags) (cs : List Char) : Option (Member × List Char) :=
  let (s, rest) := startSet f cs
  readSet? f (rest.length + 1) [] s rest

end Reckoner.Pattern
