import Reckoner.Pattern.CharClass
import Reckoner.Pattern.Draft
import Reckoner.Text.Utf8

set_option autoImplicit false

namespace Reckoner.Pattern.Drafting

structure Arc where
  range : Utf8.ByteRange
  next : Nat
  deriving DecidableEq, Repr

/-- Neighbours with the same first range come together, with what follows it. -/
def groupFirst : List (List Utf8.ByteRange) → List (Utf8.ByteRange × List (List Utf8.ByteRange))
  | [] => []
  | [] :: ps => groupFirst ps
  | (r :: p) :: ps =>
    match groupFirst ps with
    | (s, qs) :: gs => if r = s then (s, p :: qs) :: gs else (r, [p]) :: (s, qs) :: gs
    | [] => [(r, [p])]

def arcs (target : Nat) : (length : Nat) → List (List Utf8.ByteRange) → Memory (List Arc) →
    Drafting (Nat × Memory (List Arc))
  | 0, _, memory => pure (target, memory)
  | length + 1, pieces, memory => do
    let (ways, memory) ← (groupFirst pieces).foldlM (fun (ways, memory) (range, rests) => do
      if rests.all (·.isEmpty) then return (⟨range, target⟩ :: ways, memory)
      else
        let (next, memory) ← arcs target length rests memory
        return (⟨range, next⟩ :: ways, memory)) ([], memory)
    let ways := ways.reverse
    shared ways (hash (ways.flatMap fun a => [a.range.low, a.range.high, a.next]))
      (8 * ways.length) memory

def chain : (next : Nat) → List Utf8.ByteRange → Memory (Nat × Utf8.ByteRange) →
    Drafting (Memory (Nat × Utf8.ByteRange))
  | _, [], memory => pure memory
  | next, r :: rs, memory => do
    let (next, memory) ← shared (next, r) (hash [next, r.low, r.high]) 0 memory
    chain next rs memory

def ofSet (backward : Bool) (k : CharClass) : Drafting Unit := do
  let runs := CodePoints.runs k.switches
  if runs.all (fun r => r.2 ≤ 0x80) then
    discard <| state 0
    discard <| state (8 * runs.length)
  else
    let pieces := runs.flatMap fun r => Utf8.pieces r.1 (r.2 - 1)
    if backward then
      discard <| state 0
      let last ← state 0
      discard <| pieces.foldlM (fun memory piece => do
        let memory ← chain last piece memory
        way
        return memory) (Array.replicate 1000 none)
    else
      let last ← state 0
      discard <| arcs last 4 pieces (Array.replicate 10000 none)

end Reckoner.Pattern.Drafting
