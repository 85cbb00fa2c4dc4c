/-! UTF-8: the bytes of code points, and intervals of code points as ranges of bytes. -/

set_option autoImplicit false

namespace Reckoner.Utf8

def encode (n : Nat) : List Nat :=
  if n < 0x80 then [n]
  else if n < 0x800 then [0xC0 + n / 0x40, 0x80 + n % 0x40]
  else if n < 0x10000 then [0xE0 + n / 0x1000, 0x80 + n / 0x40 % 0x40, 0x80 + n % 0x40]
  else [0xF0 + n / 0x40000, 0x80 + n / 0x1000 % 0x40, 0x80 + n / 0x40 % 0x40, 0x80 + n % 0x40]

structure ByteRange where
  low : Nat
  high : Nat
  deriving DecidableEq, Repr

/-- Where an interval is cut for the last bytes, `unit` points having the bytes before them in
common: a part at either end that does not fill its unit is cut off. -/
def cutAt? (low high unit : Nat) : Option Nat :=
  if low / unit = high / unit then none
  else if low % unit ≠ 0 then some ((low / unit + 1) * unit)
  else if high % unit ≠ unit - 1 then some (high / unit * unit)
  else none

def cut? (low high : Nat) : Option Nat :=
  if low < 0x80 ∧ 0x80 ≤ high then some 0x80
  else if low < 0x800 ∧ 0x800 ≤ high then some 0x800
  else if low < 0x10000 ∧ 0x10000 ≤ high then some 0x10000
  else if high < 0x80 then none
  else (cutAt? low high 0x40).or ((cutAt? low high 0x1000).or (cutAt? low high 0x40000))

/-- The ranges, byte by byte, whose products make up an interval, from low to high. -/
def pieces (low high : Nat) : List (List ByteRange) :=
  match cut? low high with
  | none => [(encode low).zipWith .mk (encode high)]
  | some p =>
    if _h : low < p ∧ p ≤ high then pieces low (p - 1) ++ pieces p high
    else [(encode low).zipWith .mk (encode high)]
  termination_by high - low

end Reckoner.Utf8
