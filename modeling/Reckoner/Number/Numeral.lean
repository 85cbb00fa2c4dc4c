/-! Decimal numerals: digits with at most one point, then an exponent. What counts as a digit is a
parameter, since a text can be recognized over the digits of every script and is read only over
the ASCII ones. A numeral is taken from the front of a text as far as it goes, and `text` writes
it back.
-/

set_option autoImplicit false

namespace Reckoner.Number

structure Exponent where
  mark : Char
  sign : Option Char
  digits : List Char
  deriving DecidableEq, Repr

structure Numeral where
  whole : List Char
  fraction : Option (List Char)
  exponent : Option Exponent
  deriving DecidableEq, Repr

def Exponent.text (e : Exponent) : List Char := e.mark :: (e.sign.toList ++ e.digits)

def fractionText : Option (List Char) → List Char
  | none => []
  | some ds => '.' :: ds

def exponentText : Option Exponent → List Char
  | none => []
  | some e => e.text

def Numeral.text (n : Numeral) : List Char :=
  n.whole ++ (fractionText n.fraction ++ exponentText n.exponent)

def takeFraction (digit : Char → Bool) : List Char → Option (List Char) × List Char
  | [] => (none, [])
  | c :: cs => if c = '.' then (some (cs.takeWhile digit), cs.dropWhile digit) else (none, c :: cs)

def takeSign : List Char → Option Char × List Char
  | [] => (none, [])
  | c :: cs => if c = '+' ∨ c = '-' then (some c, cs) else (none, c :: cs)

/-- An exponent needs a digit; without one its mark is not part of the numeral. -/
def takeExponent (digit : Char → Bool) : List Char → Option Exponent × List Char
  | [] => (none, [])
  | c :: cs =>
    let (sign, rest) := takeSign cs
    let digits := rest.takeWhile digit
    if (c = 'e' ∨ c = 'E') ∧ digits ≠ [] then (some ⟨c, sign, digits⟩, rest.dropWhile digit)
    else (none, c :: cs)

/-- The longest numeral at the front of a text, and what follows it. -/
def Numeral.take (digit : Char → Bool) (cs : List Char) : Numeral × List Char :=
  let (fraction, afterFraction) := takeFraction digit (cs.dropWhile digit)
  let (exponent, rest) := takeExponent digit afterFraction
  (⟨cs.takeWhile digit, fraction, exponent⟩, rest)

theorem takeFraction_text (digit : Char → Bool) (cs : List Char) :
    fractionText (takeFraction digit cs).1 ++ (takeFraction digit cs).2 = cs := by
  cases cs with
  | nil => rfl
  | cons c cs => by_cases h : c = '.' <;> simp [takeFraction, fractionText, h]

theorem takeSign_text (cs : List Char) : (takeSign cs).1.toList ++ (takeSign cs).2 = cs := by
  cases cs with
  | nil => rfl
  | cons c cs => by_cases h : c = '+' ∨ c = '-' <;> simp [takeSign, h]

theorem takeExponent_text (digit : Char → Bool) (cs : List Char) :
    exponentText (takeExponent digit cs).1 ++ (takeExponent digit cs).2 = cs := by
  cases cs with
  | nil => rfl
  | cons c cs =>
    simp only [takeExponent]
    split
    · simp [exponentText, Exponent.text, List.append_assoc, takeSign_text]
    · rfl

theorem Numeral.take_text (digit : Char → Bool) (cs : List Char) :
    (take digit cs).1.text ++ (take digit cs).2 = cs := by
  simp only [take, text, List.append_assoc]
  rw [takeExponent_text, takeFraction_text, List.takeWhile_append_dropWhile]

def Numeral.hasDigit (n : Numeral) : Bool := !(n.whole ++ n.fraction.getD []).isEmpty

def isNumeral (digit : Char → Bool) (cs : List Char) : Bool :=
  let (n, rest) := Numeral.take digit cs
  rest.isEmpty && n.hasDigit

def digitsValue (ds : List Char) : Nat := ds.foldl (fun n d => 10 * n + (d.toNat - '0'.toNat)) 0

def Exponent.value (e : Exponent) : Int :=
  if e.sign = some '-' then -(digitsValue e.digits : Int) else digitsValue e.digits

def ofDecimal (digits : Nat) (scale : Int) : Float :=
  .ofScientific digits (decide (scale < 0)) scale.natAbs

def Numeral.value (n : Numeral) : Float :=
  let fraction := n.fraction.getD []
  let exponent := (n.exponent.map Exponent.value).getD 0
  ofDecimal (digitsValue (n.whole ++ fraction)) (exponent - fraction.length)

def read? (cs : List Char) : Option Float :=
  if isNumeral Char.isDigit cs then some (Numeral.take Char.isDigit cs).1.value else none

end Reckoner.Number
