import Reckoner.Config
import Reckoner.Registry

set_option autoImplicit false

namespace Reckoner.Builtin

def constants : List (String × Float) := [("pi", 3.14159265359), ("e", 2.71828182846)]

def divide (strict : Bool) (x y : Float) : Except Error Float :=
  if y == 0 then if strict then .error .divisionByZero else .ok 0 else .ok (x / y)

def isNegation (lexeme : String) (preceding : List Token) : Bool :=
  lexeme == "-" && startsExpression preceding

def plus : Operator := .binary "+" 1 .left fun x y => .ok (x + y)
def minus : Operator := .binary "-" 1 .left fun x y => .ok (x - y)
def times : Operator := .binary "*" 2 .left fun x y => .ok (x * y)
def quotient (strict : Bool) : Operator := .binary "/" 2 .left (divide strict)
def power : Operator := .binary "^" 3 .right fun x y => .ok (x.pow y)
def negation : Operator := .unary "-" 4 .right fun x => .ok (-x)

/-- The negation comes last and so is tried before the binary minus. -/
def operators (strict : Bool) : List Registration := [
  .operator "plus" (.literal "+") plus,
  .operator "minus" (.literal "-") minus,
  .operator "multiply" (.literal "*") times,
  .operator "divide" (.literal "/") (quotient strict),
  .operator "power" (.literal "^") power,
  .operator "unary_minus" (.context isNegation) negation]

def unaryFunctions : List (String × (Float → Float)) := [
  ("acos", Float.acos), ("asin", Float.asin), ("atn", Float.atan),
  ("cos", Float.cos), ("sin", Float.sin), ("tn", Float.tan)]

def unaryFunction? (name : String) : Option (Float → Float) :=
  (unaryFunctions.find? (·.1 == name)).map (·.2)

def numberArgument (owner : String) : Value → Except Error Float
  | .number x => .ok x
  | .text _ => .error (.wrongArguments owner)

def callUnary (owner : String) (f : Float → Float) : List Value → Except Error Value
  | [] => .error (.wrongArguments owner)
  | v :: _ =>
    match numberArgument owner v with
    | .error e => .error e
    | .ok x => .ok (.number (f x))

def foldFrom (owner : String) (f : Float → Float → Float) (x : Float) :
    List Value → Except Error Float
  | [] => .ok x
  | v :: vs =>
    match numberArgument owner v with
    | .error e => .error e
    | .ok y => foldFrom owner f (f x y) vs

def foldNumbers (owner : String) (f : Float → Float → Float) : List Value → Except Error Float
  | [] => .error (.wrongArguments owner)
  | v :: vs =>
    match numberArgument owner v with
    | .error e => .error e
    | .ok x => foldFrom owner f x vs

/-- The lesser number; a NaN counts only against another. -/
def lesser (x y : Float) : Float := if y < x || x.isNaN then y else x

def greater (x y : Float) : Float := if x < y || x.isNaN then y else x

def callFold (owner : String) (f : Float → Float → Float) (args : List Value) :
    Except Error Value :=
  (foldNumbers owner f args).map .number

def average (args : List Value) : Except Error Value :=
  (foldNumbers "avg" (· + ·) args).map fun sum => .number (sum / args.length.toFloat)

def functions : List Registration :=
  (unaryFunctions.map fun e => .function e.1 1 false (callUnary e.1 e.2)) ++ [
    .function "min" 2 true (callFold "min" lesser),
    .function "max" 2 true (callFold "max" greater),
    .function "avg" 2 true average]

end Reckoner.Builtin

namespace Reckoner

def Registry.default (c : Config) : Registry :=
  (Registry.basic c.sigil).insertAll (Builtin.operators c.strictDivision ++ Builtin.functions)

end Reckoner
