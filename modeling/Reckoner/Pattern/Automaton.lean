import Reckoner.Pattern.Regular

/-! Automata of regular expressions. A search keeps the set of the nodes that wait for the next
character, so that it takes at most one visit of each node for each place of the text.
-/

set_option autoImplicit false

namespace Reckoner.Pattern

inductive Node where
  | accept : Node
  | char : CharClass → (next : Nat) → Node
  | edge : Edge → (next : Nat) → Node
  | fork : (next : List Nat) → Node
  deriving Inhabited

structure Automaton where
  nodes : Array Node
  start : Nat

abbrev Automaton.Part := Nat × Array Node

def Node.add (n : Node) (nodes : Array Node) : Automaton.Part := (nodes.size, nodes.push n)

namespace Regular

def putTimes (put : Nat → Array Node → Automaton.Part) :
    (count : Nat) → Nat → Array Node → Automaton.Part
  | 0, next, nodes => (next, nodes)
  | count + 1, next, nodes =>
    let (start, nodes) := put next nodes
    putTimes put count start nodes

mutual

def put : Regular → (next : Nat) → Array Node → Automaton.Part
  | .empty, next, nodes => (next, nodes)
  | .text cs, next, nodes =>
    cs.foldr (fun c (next, nodes) => (Node.char (.single c) next).add nodes) (next, nodes)
  | .char k, next, nodes => (Node.char k next).add nodes
  | .edge e, next, nodes => (Node.edge e next).add nodes
  | .group r, next, nodes => r.put next nodes
  | .seq rs, next, nodes => putSeq rs next nodes
  | .alt rs, next, nodes =>
    let (starts, nodes) := putAlt rs next nodes
    (Node.fork starts).add nodes
  | .repeated low high _ r, next, nodes =>
    let (start, nodes) :=
      match high with
      | none =>
        let loop := nodes.size
        let (start, nodes) := r.put loop (nodes.push (.fork []))
        (loop, nodes.set! loop (.fork [start, next]))
      | some high =>
        putTimes (fun after nodes =>
          let (start, nodes) := r.put after nodes
          (Node.fork [start, next]).add nodes) (high - low) next nodes
    putTimes (fun next nodes => r.put next nodes) low start nodes

def putSeq : List Regular → (next : Nat) → Array Node → Automaton.Part
  | [], next, nodes => (next, nodes)
  | r :: rs, next, nodes =>
    let (next, nodes) := putSeq rs next nodes
    r.put next nodes

def putAlt : List Regular → (next : Nat) → Array Node → List Nat × Array Node
  | [], _, nodes => ([], nodes)
  | r :: rs, next, nodes =>
    let (start, nodes) := r.put next nodes
    let (starts, nodes) := putAlt rs next nodes
    (start :: starts, nodes)

end

def automaton (r : Regular) : Automaton :=
  let (start, nodes) := r.put 0 #[.accept]
  ⟨nodes, start⟩

end Regular

namespace Automaton

def ways (a : Automaton) : Nat :=
  a.nodes.foldl (fun n node => n + match node with
    | .fork next => next.length
    | .edge _ _ => 1
    | .accept | .char _ _ => 0) 0

/-- The nodes seen at one place of the text, each marked with the number of the place, and those
reached behind the character there. -/
structure Visit where
  marks : Array Nat
  ahead : List Nat := []
  accepted : Bool := false

def visit (a : Automaton) (before after : Option Char) (place : Nat) :
    (fuel : Nat) → List Nat → Visit → Visit
  | 0, _, v => v
  | _, [], v => v
  | fuel + 1, i :: is, v =>
    if v.marks.getD i place = place then a.visit before after place fuel is v
    else
      let v := { v with marks := v.marks.set! i place }
      match a.nodes.getD i .accept with
      | .accept => { v with accepted := true }
      | .char k next =>
        if after.any k.contains then
          a.visit before after place fuel is { v with ahead := next :: v.ahead }
        else a.visit before after place fuel is v
      | .edge e next =>
        a.visit before after place fuel (if e.holds before after then next :: is else is) v
      | .fork next => a.visit before after place fuel (next ++ is) v

/-- Looks for a match that begins at this place or later, or that is on its way to the nodes
`ahead`. Places are counted from one. -/
def search (a : Automaton) (fuel : Nat) (before : Option Char) (place : Nat) (ahead : List Nat)
    (marks : Array Nat) : List Char → Bool
  | [] => (a.visit before none place fuel (a.start :: ahead) { marks }).accepted
  | c :: cs =>
    let v := a.visit before (some c) place fuel (a.start :: ahead) { marks }
    v.accepted || a.search fuel (some c) (place + 1) v.ahead v.marks cs

def occursIn (a : Automaton) (text : List Char) : Bool :=
  a.search (a.nodes.size + a.ways + 1) none 1 [] (.replicate a.nodes.size 0) text

end Automaton

end Reckoner.Pattern
