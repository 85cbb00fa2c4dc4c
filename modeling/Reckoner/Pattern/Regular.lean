import Reckoner.Pattern.CharClass
import Reckoner.Pattern.Edge

/-! Regular expressions over characters, with edges. The functions that put them together keep one
form: neighbouring characters are one text, a choice between characters is a set, sequences and
choices do not stand in their own kind, and what all sides of a choice begin with stands before it.
-/

set_option autoImplicit false

namespace Reckoner.Pattern

inductive Regular where
  | empty : Regular
  | text : List Char → Regular
  | char : CharClass → Regular
  | edge : Edge → Regular
  | group : Regular → Regular
  | seq : List Regular → Regular
  | alt : List Regular → Regular
  | repeated : (low : Nat) → (high : Option Nat) → (greedy : Bool) → Regular → Regular

namespace Regular

structure Reach where
  shortest : Option Nat
  longest : Option Nat
  deriving DecidableEq, Repr

def Reach.both (a b : Reach) : Reach :=
  ⟨a.shortest.bind fun m => b.shortest.map (m + ·), a.longest.bind fun m => b.longest.map (m + ·)⟩

def Reach.either (a b : Reach) : Reach :=
  ⟨a.shortest.bind fun m => b.shortest.map (min m), a.longest.bind fun m => b.longest.map (max m)⟩

mutual

def reach : Regular → Reach
  | .empty | .edge _ => ⟨some 0, some 0⟩
  | .text cs => ⟨some cs.length, some cs.length⟩
  | .char k => if k = .nothing then ⟨none, none⟩ else ⟨some 1, some 1⟩
  | .group r => r.reach
  | .seq rs => (reaches rs).foldl .both ⟨some 0, some 0⟩
  | .alt rs =>
    match reaches rs with
    | [] => ⟨none, none⟩
    | a :: as => as.foldl .either a
  | .repeated low high _ r =>
    ⟨r.reach.shortest.map (low * ·), high.bind fun n => r.reach.longest.map (n * ·)⟩

def reaches : List Regular → List Reach
  | [] => []
  | r :: rs => r.reach :: reaches rs

end

mutual

/-- The same expression. Groups are counted, so that no two of them are the same. -/
def same : Regular → Regular → Bool
  | .empty, .empty => true
  | .text a, .text b => a == b
  | .char a, .char b => a == b
  | .edge a, .edge b => a == b
  | .seq as, .seq bs => sameAll as bs
  | .alt as, .alt bs => sameAll as bs
  | .repeated low high greedy a, .repeated low' high' greedy' b =>
    low == low' && high == high' && greedy == greedy' && a.same b
  | _, _ => false

def sameAll : List Regular → List Regular → Bool
  | [], [] => true
  | a :: as, b :: bs => a.same b && sameAll as bs
  | _, _ => false

end

def ofClass (k : CharClass) : Regular :=
  match k.single? with
  | some c => .text [c]
  | none => .char k

def joinTexts (r : Regular) (rs : List Regular) : List Regular :=
  match r, rs with
  | .text a, .text b :: rs => .text (a ++ b) :: rs
  | r, rs => r :: rs

def concat (rs : List Regular) : Regular :=
  let parts := rs.flatMap fun
    | .empty => []
    | .seq rs => rs
    | r => [r]
  match parts.foldr joinTexts [] with
  | [] => .empty
  | [r] => r
  | rs => .seq rs

def class? : Regular → Option CharClass
  | .char k => some k
  | _ => none

def single? : Regular → Option CharClass
  | .text [c] => some (.single c)
  | _ => none

def items? : Regular → Option (List Regular)
  | .seq rs => some rs
  | _ => none

def sharedStart : List Regular → List Regular → List Regular
  | a :: as, b :: bs => if a.same b then a :: sharedStart as bs else []
  | _, _ => []

/-- One of the sides. The first argument bounds how often a shared start is taken out. -/
def oneOf : (fuel : Nat) → List Regular → Regular
  | fuel, rs =>
    let sides := rs.flatMap fun
      | .alt rs => rs
      | r => [r]
    match sides with
    | [] => .char .nothing
    | [r] => r
    | sides =>
      match (sides.mapM single?).or (sides.mapM class?) with
      | some ks => ofClass (ks.foldl .union .nothing)
      | none =>
        match fuel, sides.mapM items? with
        | fuel + 1, some (first :: others) =>
          let shared := others.foldl sharedStart first
          if shared.isEmpty then .alt sides
          else
            let rests := (first :: others).map fun items => concat (items.drop shared.length)
            concat (shared ++ [oneOf fuel rests])
        | _, _ => .alt sides

def times (low : Nat) (high : Option Nat) (greedy : Bool) (r : Regular) : Regular :=
  let (low, high) := if r.reach.longest = some 0 then (min low 1, some (min (high.getD 1) 1))
    else (low, high)
  if high = some 0 then .empty
  else if low = 1 ∧ high = some 1 then r
  else .repeated low high greedy r

mutual

def opensAt (e : Edge) : Regular → Bool
  | .edge d => d == e
  | .group r => r.opensAt e
  | .seq rs => firstOpensAt e rs
  | .alt rs => eachOpensAt e rs
  | .repeated low _ _ r => decide (0 < low) && r.opensAt e
  | .empty | .text _ | .char _ => false

def firstOpensAt (e : Edge) : List Regular → Bool
  | [] => false
  | r :: rs => r.opensAt e || r.reach.longest == some 0 && firstOpensAt e rs

def eachOpensAt (e : Edge) : List Regular → Bool
  | [] => true
  | r :: rs => r.opensAt e && eachOpensAt e rs

end

mutual

def closesAt (e : Edge) : Regular → Bool
  | .edge d => d == e
  | .group r => r.closesAt e
  | .seq rs => lastClosesAt e rs
  | .alt rs => eachClosesAt e rs
  | .repeated low _ _ r => decide (0 < low) && r.closesAt e
  | .empty | .text _ | .char _ => false

def lastClosesAt (e : Edge) : List Regular → Bool
  | [] => false
  | r :: rs =>
    lastClosesAt e rs || r.closesAt e && rs.all (fun r => r.reach.longest == some 0)

def eachClosesAt (e : Edge) : List Regular → Bool
  | [] => true
  | r :: rs => r.closesAt e && eachClosesAt e rs

end

end Regular

end Reckoner.Pattern
