import Reckoner.Stack

set_option autoImplicit false

namespace Reckoner

inductive Associativity where
  | left | right
  deriving DecidableEq, Repr

structure Operator where
  symbol : String
  priority : Int
  associativity : Associativity
  execute : Popping Value

structure Callable where
  name : String
  minimum : Nat
  variadic : Bool
  call : List Value → Except Error Value

inductive Token where
  | number : Float → Token
  | text : String → Token
  | var : String → Token
  | identifier : String → Token
  | leftBracket : Token
  | rightBracket : Token
  | comma : Token
  | operator : Operator → Token
  | function : Callable → Token

namespace Associativity

def inspect : Associativity → String
  | left => "Left"
  | right => "Right"

end Associativity

namespace Operator

def binary (symbol : String) (priority : Int) (associativity : Associativity)
    (f : Float → Float → Except Error Float) : Operator where
  symbol := symbol
  priority := priority
  associativity := associativity
  execute := do
    let right ← popNumber symbol
    let left ← popNumber symbol
    match f left right with
    | .ok x => return .number x
    | .error e => throw e

def unary (symbol : String) (priority : Int) (associativity : Associativity)
    (f : Float → Except Error Float) : Operator where
  symbol := symbol
  priority := priority
  associativity := associativity
  execute := do
    let operand ← popNumber symbol
    match f operand with
    | .ok x => return .number x
    | .error e => throw e

/-- The waiting operator `top` is applied before `o`. -/
def popsBefore (o top : Operator) : Bool :=
  match o.associativity with
  | .left => decide (o.priority ≤ top.priority)
  | .right => decide (o.priority < top.priority)

/-- Operators are told apart by how they are written and how they bind. -/
def same (a b : Operator) : Bool :=
  a.symbol == b.symbol && a.priority == b.priority && a.associativity == b.associativity

def inspect (o : Operator) : String :=
  "OperatorSpec \x7b symbol: " ++ Text.quoted o.symbol ++ ", priority: " ++ toString o.priority ++
    ", associativity: " ++ o.associativity.inspect ++ " \x7d"

end Operator

namespace Callable

def same (f g : Callable) : Bool :=
  f.name == g.name && f.minimum == g.minimum && f.variadic == g.variadic

def inspect (f : Callable) : String :=
  "FunctionSpec \x7b name: " ++ Text.quoted f.name ++ ", min_arguments: " ++ toString f.minimum ++
    ", variadic: " ++ toString f.variadic ++ " \x7d"

end Callable

namespace Token

def ofValue : Value → Token
  | .number x => .number x
  | .text s => .text s

def value? : Token → Option Value
  | number x => some (.number x)
  | text s | identifier s => some (.text s)
  | _ => none

def isOperator : Token → Bool
  | operator _ => true
  | _ => false

/-- Numbers are compared as numbers: zero is negative zero, and no NaN is itself. -/
def same : Token → Token → Bool
  | number x, number y => x == y
  | text s, text t | var s, var t | identifier s, identifier t => s == t
  | leftBracket, leftBracket | rightBracket, rightBracket | comma, comma => true
  | operator a, operator b => a.same b
  | function f, function g => f.same g
  | _, _ => false

instance : BEq Token := ⟨same⟩

def display : Token → String
  | number x => Number.Layout.plain.write x
  | text s => "\"" ++ s ++ "\""
  | var s | identifier s => s
  | leftBracket => "("
  | rightBracket => ")"
  | comma => ","
  | operator o => o.symbol
  | function f => f.name

def inspect : Token → String
  | number x => "Number(" ++ Number.Layout.diagnostic.write x ++ ")"
  | text s => "Str(" ++ Text.quoted s ++ ")"
  | var s => "Variable(" ++ Text.quoted s ++ ")"
  | identifier s => "Identifier(" ++ Text.quoted s ++ ")"
  | leftBracket => "LeftBracket"
  | rightBracket => "RightBracket"
  | comma => "Comma"
  | operator o => "Operator(" ++ o.inspect ++ ")"
  | function f => "Function(" ++ f.inspect ++ ")"

def operand : Token → Operand
  | number x => .value (.number x)
  | text s | identifier s => .value (.text s)
  | leftBracket => .marker
  | t => .inert t.display

def displayAll (ts : List Token) : String := " ".intercalate (ts.map display)

end Token

/-- An operand is due: nothing was read yet, or an operator, a left bracket or a comma last. The
tokens come last first. -/
def startsExpression : List Token → Bool
  | [] | .operator _ :: _ | .leftBracket :: _ | .comma :: _ => true
  | _ => false

end Reckoner
