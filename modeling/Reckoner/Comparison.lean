import Reckoner.Registry

set_option autoImplicit false

namespace Reckoner.Comparison

def orderNumbers? (x y : Float) : Option Ordering :=
  if x < y then some .lt else if x == y then some .eq else if y < x then some .gt else none

def order? : Value → Value → Option Ordering
  | .number x, .number y => orderNumbers? x y
  | .text s, .text t => some (compareOfLessAndEq s t)
  | _, _ => none

inductive Condition where
  | less | lessOrEqual | greater | greaterOrEqual | equal | notEqual
  deriving DecidableEq, Repr

namespace Condition

def holds : Condition → Ordering → Bool
  | less, o => o == .lt
  | lessOrEqual, o => o != .gt
  | greater, o => o == .gt
  | greaterOrEqual, o => o != .lt
  | equal, o => o == .eq
  | notEqual, o => o != .eq

def spellings : Condition → List String
  | less => ["<", "lt"]
  | lessOrEqual => ["<=", "le", "lte"]
  | greater => [">", "gt"]
  | greaterOrEqual => [">=", "ge", "gte"]
  | equal => ["==", "=", "eq"]
  | notEqual => ["!=", "<>", "ne"]

def all : List Condition := [greater, greaterOrEqual, less, lessOrEqual, equal, notEqual]

def ofSpelling? (s : String) : Option Condition := all.find? (·.spellings.contains s)

def symbol : Condition → String
  | less => "<"
  | lessOrEqual => "<="
  | greater => ">"
  | greaterOrEqual => ">="
  | equal => "=="
  | notEqual => "!="

def name : Condition → String
  | less => "lt"
  | lessOrEqual => "le"
  | greater => "gt"
  | greaterOrEqual => "ge"
  | equal => "eq"
  | notEqual => "ne"

end Condition

def truth (b : Bool) : Value := .number (if b then 1 else 0)

def check (owner : String) (c : Condition) (left right : Value) : Except Error Value :=
  match order? left right with
  | none => .error (.wrongArguments owner)
  | some o => .ok (truth (c.holds o))

def Condition.operator (c : Condition) : Operator where
  symbol := c.symbol
  priority := 0
  associativity := .left
  execute := do
    let right ← popValue c.symbol
    let left ← popValue c.symbol
    match check c.symbol c left right with
    | .ok v => return v
    | .error e => throw e

def sign : Ordering → Float
  | .lt => -1
  | .eq => 0
  | .gt => 1

/-- Two arguments give the sign of their order; a third one, a text, names a condition to check. -/
def compare : List Value → Except Error Value
  | [left, right] =>
    match order? left right with
    | none => .error (.wrongArguments "compare")
    | some o => .ok (.number (sign o))
  | [left, right, .text s] =>
    match Condition.ofSpelling? s with
    | some c => check "compare" c left right
    | none => .error (.wrongArguments "compare")
  | _ => .error (.wrongArguments "compare")

def choose : List Value → Except Error Value
  | [.number x, yes, no] => .ok (if x != 0 then yes else no)
  | _ => .error (.wrongArguments "if")

def registrations : List Registration :=
  Condition.all.map (fun c => .operator c.name (.literal c.symbol) c.operator) ++ [
    .function "compare" 2 true compare,
    .function "if" 3 false choose]

end Reckoner.Comparison
