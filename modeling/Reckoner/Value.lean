import Reckoner.Error
import Reckoner.Number.Layout

set_option autoImplicit false

namespace Reckoner

inductive Value where
  | number : Float → Value
  | text : String → Value
  deriving BEq, Repr

namespace Value

def number? : Value → Option Float
  | number x => some x
  | text _ => none

def toNumber : Value → Except Error Float
  | number x => .ok x
  | text s => .error (.notANumber s)

def display : Value → String
  | number x => Number.Layout.plain.write x
  | text s => s

def inspect : Value → String
  | number x => "Number(" ++ Number.Layout.diagnostic.write x ++ ")"
  | text s => "Str(" ++ Text.quoted s ++ ")"

end Value

end Reckoner
