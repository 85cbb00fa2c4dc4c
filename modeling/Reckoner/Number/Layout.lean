import Reckoner.Number.Shortest

set_option autoImplicit false

namespace Reckoner.Number

structure Layout where
  fraction : Bool
  /-- The powers of ten from which, and below which, numbers are positional. -/
  positional : Option (Int × Int)
  deriving DecidableEq, Repr

def Layout.plain : Layout := ⟨false, none⟩

/-- The form of diagnostics: `3.0`, and `1.5e-5` outside `1e-4 ≤ x < 1e16`. -/
def Layout.diagnostic : Layout := ⟨true, some (-4, 16)⟩

def Layout.isPositional (l : Layout) (power : Int) : Bool :=
  match l.positional with
  | none => true
  | some (low, high) => decide (low ≤ power) && decide (power < high)

def zeros (n : Nat) : List Char := List.replicate n '0'

def Layout.withPoint (l : Layout) (digits : List Char) (point : Int) : List Char :=
  if point ≤ 0 then '0' :: '.' :: zeros (-point).toNat ++ digits
  else if point < digits.length then digits.take point.toNat ++ '.' :: digits.drop point.toNat
  else digits ++ zeros (point - digits.length).toNat ++ if l.fraction then ['.', '0'] else []

def withExponent (digits : List Char) (power : Int) : List Char :=
  let fraction := if digits.length ≤ 1 then [] else '.' :: digits.drop 1
  digits.take 1 ++ fraction ++ 'e' :: (toString power).toList

def Layout.decimal (l : Layout) (d : Decimal) : List Char :=
  let digits := Nat.toDigits 10 d.digits
  let power := digits.length + d.scale - 1
  if l.isPositional power then l.withPoint digits (power + 1) else withExponent digits power

def Layout.write (l : Layout) (x : Float) : String :=
  if x.isNaN then "NaN"
  else
    let body := if x.isInf then "inf".toList else l.decimal (shortest (magnitude x))
    .ofList (if isNegative x then '-' :: body else body)

end Reckoner.Number
