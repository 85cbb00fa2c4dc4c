
set_option autoImplicit false

namespace Reckoner.Number

structure Binary where
  mantissa : Nat
  exponent : Int
  deriving DecidableEq, Repr

def Binary.ofBits (bits : Nat) : Binary :=
  let field := bits / 4503599627370496 % 2048
  let fraction := bits % 4503599627370496
  if field = 0 then ⟨fraction, -1074⟩ else ⟨fraction + 4503599627370496, field - 1075⟩

def Binary.toBits (b : Binary) : Nat :=
  (b.exponent + 1074).toNat * 4503599627370496 + b.mantissa

theorem Binary.toBits_ofBits {bits : Nat} (h : bits < 9223372036854775808) :
    (ofBits bits).toBits = bits := by
  simp only [ofBits, toBits]
  split <;> simp only <;> omega

/-- Shifts the mantissa up to 53 bits, as far as the least exponent allows. -/
def Binary.normal (b : Binary) : Binary :=
  let shift := min (52 - b.mantissa.log2) (b.exponent + 1074).toNat
  ⟨b.mantissa * Nat.pow 2 shift, b.exponent - shift⟩

def magnitude (x : Float) : Binary := .ofBits x.toBits.toNat

def isNegative (x : Float) : Bool := decide (9223372036854775808 ≤ x.toBits.toNat)

def ofMagnitude (negative : Bool) (b : Binary) : Float :=
  let bits := if b.mantissa = 0 then 0 else b.normal.toBits
  .ofBits (.ofNat (if negative then 9223372036854775808 + bits else bits))

/-- The remainder of the quotient cut toward zero, computed without rounding. It has the sign of
the dividend. -/
def remainder (x y : Float) : Float :=
  if x.isNaN || y.isNaN || x.isInf || y == 0 then 0 / 0
  else if y.isInf then x
  else
    let a := magnitude x
    let b := magnitude y
    let low := min a.exponent b.exponent
    let dividend := a.mantissa * Nat.pow 2 (a.exponent - low).toNat
    let divisor := b.mantissa * Nat.pow 2 (b.exponent - low).toNat
    ofMagnitude (isNegative x) ⟨dividend % divisor, low⟩

end Reckoner.Number
