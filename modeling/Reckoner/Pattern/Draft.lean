/-! Automata that are only counted: their states are numbered in the order in which they are made,
and the work ends once they take more memory than the limit.
-/

set_option autoImplicit false

namespace Reckoner.Pattern

/-- The number of states made so far, and the bytes that their lists take. -/
structure Draft where
  states : Nat := 0
  lists : Nat := 0

namespace Draft

def limit : Nat := 10 * 1024 * 1024

def bytes (d : Draft) : Nat := 32 * d.states + d.lists

end Draft

abbrev Drafting := StateT Draft Option

namespace Drafting

def take (states lists : Nat) : Drafting Unit := fun d =>
  let d := ⟨d.states + states, d.lists + lists⟩
  if d.bytes ≤ Draft.limit then some ((), d) else none

def state (list : Nat) : Drafting Nat := do
  let d ← get
  take 1 list
  return d.states

def way : Drafting Unit := take 0 4

def link (fork : Bool) : Drafting Unit := if fork then way else pure ()

/-- States that are used again for equal keys. Each key has one place, by its hash, and a later key
takes the place of an earlier one. -/
abbrev Memory (α : Type) := Array (Option (α × Nat))

def hash (ns : List Nat) : Nat :=
  let h := ns.foldl (fun h n => (h ^^^ UInt64.ofNat n) * 1099511628211) 14695981039346656037
  h.toNat

def shared {α : Type} [DecidableEq α] (key : α) (digest list : Nat) (memory : Memory α) :
    Drafting (Nat × Memory α) := do
  let place := digest % memory.size
  let known := match memory.getD place none with
    | some (k, n) => if k = key then some n else none
    | none => none
  match known with
  | some n => return (n, memory)
  | none =>
    let n ← state list
    return (n, memory.set! place (some (key, n)))

end Drafting

end Reckoner.Pattern
