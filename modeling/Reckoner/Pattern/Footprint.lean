import Reckoner.Pattern.ClassDraft
import Reckoner.Pattern.Regular

/-! The memory that an expression takes as automata over UTF-8 bytes: one that reads forward and
notes the places of the groups, and one that reads backward. Parts give whether they end in a fork.
-/

set_option autoImplicit false

namespace Reckoner.Pattern

namespace Drafting

def addWord (b : Nat) (w : List Nat) : List (Nat × List (List Nat)) → List (Nat × List (List Nat))
  | [] => [(b, [w])]
  | (c, ws) :: branches =>
    if b = c then (c, ws ++ [w]) :: branches else (c, ws) :: addWord b w branches

/-- The branches of a tree of words. An end among the words closes the branches before it; an end
before all branches counts once. -/
def branches (words : List (List Nat)) : List (List (Nat × List (List Nat))) :=
  let (done, current) := words.foldl (fun (done, current) w =>
    match w with
    | b :: w => (done, addWord b w current)
    | [] =>
      if current.isEmpty && !done.isEmpty && done.all (·.isEmpty) then (done, current)
      else (current :: done, [])) ([], [])
  (current :: done).reverse

def tree : (length : Nat) → List (List Nat) → Drafting Unit
  | 0, _ => pure ()
  | length + 1, words => do
    let sides := branches words
    sides.forM fun side => do
      side.forM fun (_, rests) => do
        if rests.all (·.isEmpty) then pure () else tree length rests
      if side.length = 1 then take 1 0
      else if 1 < side.length then take 1 (8 * side.length)
    take 1 (4 * ((sides.filter (!·.isEmpty)).length + (sides.length - 1)))

def bytesOf (cs : List Char) : List Nat := cs.flatMap fun c => Utf8.encode c.toNat

def ofWords (backward : Bool) (words : List (List Nat)) : Drafting Unit := do
  let words := if backward then words.map (·.reverse) else words
  take 1 0
  tree ((words.map (·.length)).foldl max 0) words

def againTimes (part : Drafting Bool) : (count : Nat) → (fork : Bool) → Drafting Bool
  | 0, fork => pure fork
  | count + 1, fork => do
    let next ← part
    link fork
    againTimes part count next

def exactly (part : Drafting Bool) : (count : Nat) → Drafting Bool
  | 0 => do
    take 1 0
    return false
  | count + 1 => do
    let fork ← part
    againTimes part count fork

def optionally (part : Drafting Bool) : (count : Nat) → (fork : Bool) → Drafting Bool
  | 0, fork => do
    link fork
    return false
  | count + 1, fork => do
    take 1 0
    let next ← part
    link fork
    way
    way
    optionally part count next

def star (part : Drafting Bool) (consuming : Bool) : Drafting Bool := do
  if consuming then
    take 1 0
    let fork ← part
    way
    link fork
    return true
  else
    let fork ← part
    take 1 0
    link fork
    way
    take 2 0
    way
    way
    way
    return false

def plus (part : Drafting Bool) : Drafting Bool := do
  let fork ← part
  take 1 0
  link fork
  way
  return true

def repetition (part : Drafting Bool) (consuming : Bool) (low : Nat) :
    (high : Option Nat) → Drafting Bool
  | none =>
    match low with
    | 0 => star part consuming
    | 1 => plus part
    | low + 2 => do
      let fork ← exactly part (low + 1)
      let last ← part
      take 1 0
      link fork
      link last
      way
      return true
  | some high => do
    if low = 0 ∧ high = 1 then
      take 1 0
      let fork ← part
      take 1 0
      way
      way
      link fork
      return false
    else if low = high then exactly part low
    else
      let fork ← exactly part low
      take 1 0
      optionally part (high - low) fork

end Drafting

namespace Regular

open Drafting

def word? : Regular → Option (List Nat)
  | .text cs => some (bytesOf cs)
  | _ => none

mutual

def draft (backward : Bool) : Regular → Drafting Bool
  | .empty | .edge _ => do
    take 1 0
    return false
  | .text cs => do
    take (bytesOf cs).length 0
    return false
  | .char k => do
    ofSet backward k
    return false
  | .group r => do
    if backward then r.draft backward
    else
      take 1 0
      let fork ← r.draft backward
      take 1 0
      link fork
      return false
  | .seq rs => if backward then draftBack rs else draftOn rs none
  | .alt rs => do
    match rs.mapM word? with
    | some words => ofWords backward words
    | none => draftSides backward rs 0 false
    return false
  | .repeated low high _ r =>
    repetition (r.draft backward) (r.reach.shortest.any (0 < ·)) low high

def draftOn : List Regular → (before : Option Bool) → Drafting Bool
  | [], before => pure (before.getD false)
  | r :: rs, before => do
    let fork ← r.draft false
    link (before.getD false)
    draftOn rs (some fork)

def draftBack : List Regular → Drafting Bool
  | [] => pure false
  | r :: rs => do
    let before ← draftBack rs
    let fork ← r.draft true
    link before
    return fork

/-- The sides of a choice, counted by `made`. The fork and its end come after the second side. -/
def draftSides (backward : Bool) : List Regular → (made : Nat) → (first : Bool) → Drafting Unit
  | [], _, _ => pure ()
  | r :: rs, made, first => do
    let fork ← r.draft backward
    if made = 0 then draftSides backward rs 1 fork
    else
      if made = 1 then
        take 2 0
        way
        link first
      way
      link fork
      draftSides backward rs (made + 1) first

end

/-- The whole automaton. In front of an expression that does not begin where its text does, a loop
skips what comes before. -/
def draftWhole (backward : Bool) (r : Regular) : Drafting Unit := do
  let anchored := if backward then r.closesAt .textEnd else r.opensAt .textStart
  if anchored then take 1 0
  else
    take 3 8
    way
    way
  let fork ← if backward then r.draft true else (Regular.group r).draft false
  take 1 0
  link fork

def fits (r : Regular) : Bool :=
  ((r.draftWhole false).run {}).isSome && ((r.draftWhole true).run {}).isSome

end Regular

end Reckoner.Pattern
