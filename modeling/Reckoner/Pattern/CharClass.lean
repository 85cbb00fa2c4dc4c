import Reckoner.Text.Blank
import Reckoner.Text.CaseFolding
import Reckoner.Text.DecimalDigit
import Reckoner.Text.WordCharacter

set_option autoImplicit false

namespace Reckoner.Pattern

structure CharClass where
  switches : List Nat
  deriving DecidableEq, Repr

namespace CharClass

def contains (k : CharClass) (c : Char) : Bool := CodePoints.contains k.switches c

def nothing : CharClass := ⟨[]⟩

/-- All characters. The points between them and above are no characters. -/
def any : CharClass := ⟨[0, 0xD800, 0xE000, 0x110000]⟩

def merge (op : Bool → Bool → Bool) (a b : CharClass) : CharClass :=
  ⟨CodePoints.combine op false false a.switches b.switches⟩

theorem contains_merge {op : Bool → Bool → Bool} (h : op false false = false) {a b : CharClass}
    (ha : a.switches.Pairwise (· < ·)) (hb : b.switches.Pairwise (· < ·)) (c : Char) :
    (merge op a b).contains c = op (a.contains c) (b.contains c) := by
  have := CodePoints.within_combine op c.toNat false false _ _ ha hb
  rwa [h] at this

def union (a b : CharClass) : CharClass := merge (· || ·) a b

def inter (a b : CharClass) : CharClass := merge (· && ·) a b

def difference (a b : CharClass) : CharClass := merge (fun x y => x && !y) a b

def exclusive (a b : CharClass) : CharClass := merge (· != ·) a b

def complement (a : CharClass) : CharClass := any.difference a

def single (c : Char) : CharClass := ⟨[c.toNat, c.toNat + 1]⟩

def between (a b : Char) : CharClass := inter any ⟨[a.toNat, b.toNat + 1]⟩

theorem contains_single (c d : Char) : (single c).contains d = (c == d) := by
  by_cases h : c = d
  · subst h; simp [single, contains, CodePoints.contains, CodePoints.within]
  · have hn : c.toNat ≠ d.toNat := fun e => h (Char.toNat_inj.1 e)
    rw [beq_eq_false_iff_ne.2 h]
    by_cases h1 : d.toNat < c.toNat
    · simp [single, contains, CodePoints.contains, CodePoints.within, h1]
    · have h2 : ¬ d.toNat < c.toNat + 1 := by omega
      simp [single, contains, CodePoints.contains, CodePoints.within, h1, h2]

def folded (k : CharClass) : CharClass :=
  let has (n : Nat) : Bool := CodePoints.within false k.switches n
  let reached := (Text.folds.filter fun f => has f.1 || has f.2).map (·.2)
  let targets := CodePoints.ofPoints (reached.mergeSort (· ≤ ·))
  let sources := Text.folds.filter fun f => CodePoints.within false targets f.2
  (k.union ⟨targets⟩).union ⟨CodePoints.ofPoints (sources.map (·.1))⟩

def single? (k : CharClass) : Option Char :=
  match k.switches with
  | [a, b] => if b = a + 1 then some (.ofNat a) else none
  | _ => none

def digit : CharClass := ⟨Text.decimalDigitSwitches⟩
def blank : CharClass := ⟨Text.blankSwitches⟩
def word : CharClass := ⟨Text.wordSwitches⟩
def lineFeed : CharClass := single '\n'
def lower : CharClass := between 'a' 'z'
def upper : CharClass := between 'A' 'Z'
def letter : CharClass := lower.union upper
def asciiDigit : CharClass := between '0' '9'
def alphanumeric : CharClass := letter.union asciiDigit

def named? : List Char → Option CharClass
  | ['a', 'l', 'n', 'u', 'm'] => some alphanumeric
  | ['a', 'l', 'p', 'h', 'a'] => some letter
  | ['a', 's', 'c', 'i', 'i'] => some (between '\x00' '\x7f')
  | ['b', 'l', 'a', 'n', 'k'] => some ((single '\t').union (single ' '))
  | ['c', 'n', 't', 'r', 'l'] => some ((between '\x00' '\x1f').union (single '\x7f'))
  | ['d', 'i', 'g', 'i', 't'] => some asciiDigit
  | ['g', 'r', 'a', 'p', 'h'] => some (between '!' '~')
  | ['l', 'o', 'w', 'e', 'r'] => some lower
  | ['p', 'r', 'i', 'n', 't'] => some (between ' ' '~')
  | ['p', 'u', 'n', 'c', 't'] => some ((between '!' '~').difference alphanumeric)
  | ['s', 'p', 'a', 'c', 'e'] => some ((between '\t' '\r').union (single ' '))
  | ['u', 'p', 'p', 'e', 'r'] => some upper
  | ['w', 'o', 'r', 'd'] => some (alphanumeric.union (single '_'))
  | ['x', 'd', 'i', 'g', 'i', 't'] =>
    some (asciiDigit.union ((between 'A' 'F').union (between 'a' 'f')))
  | _ => none

end CharClass

end Reckoner.Pattern
