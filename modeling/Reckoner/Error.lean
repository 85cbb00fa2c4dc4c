import Reckoner.Text.Quoted

set_option autoImplicit false

namespace Reckoner

inductive Error where
  | unknownToken : String → Error
  | unknownFunction : String → Error
  | unknownVariable : String → Error
  | incorrectExpression : String → Error
  | incorrectBrackets : String → Error
  /-- Carries the name of the function, or the symbol of the comparison. -/
  | wrongArguments : String → Error
  | config : String → Error
  | divisionByZero : Error
  | tooDeep : Nat → Error
  | notANumber : String → Error
  /-- Memory for so many values cannot be reserved. No operation answers with it: what was being
  done is abandoned there, as by an error. -/
  | capacityOverflow : Error
  deriving DecidableEq, Repr

namespace Error

def kind : Error → String
  | unknownToken _ => "UnknownToken"
  | unknownFunction _ => "UnknownFunction"
  | unknownVariable _ => "UnknownVariable"
  | incorrectExpression _ => "IncorrectExpression"
  | incorrectBrackets _ => "IncorrectBrackets"
  | wrongArguments _ => "WrongFunctionArguments"
  | config _ => "Config"
  | divisionByZero => "DivisionByZero"
  | tooDeep _ => "TooDeep"
  | notANumber _ => "NotANumber"
  | capacityOverflow => "CapacityOverflow"

def between (opening closing text : String) : String := opening ++ text ++ closing

def message : Error → String
  | unknownToken s => between "UnknownToken: unknown token \"" "\"" s
  | unknownFunction s => between "UnknownFunction: unknown function \"" "\"" s
  | unknownVariable s => between "UnknownVariable: unknown variable \"" "\"" s
  | incorrectExpression s => "IncorrectExpression: " ++ s
  | incorrectBrackets s => "IncorrectBrackets: " ++ s
  | wrongArguments s => between "WrongFunctionArguments: wrong arguments of function \"" "\"" s
  | config s => "ConfigError: " ++ s
  | divisionByZero => "DivisionByZero: divide a number by zero"
  | tooDeep n => between "TooDeep: brackets nested deeper than " " levels" (toString n)
  | notANumber s => between "NotANumber: \"" "\" is not a number" s
  | capacityOverflow => "capacity overflow"

def inspect (e : Error) : String :=
  match e with
  | divisionByZero | capacityOverflow => e.kind
  | tooDeep n => e.kind ++ "(" ++ toString n ++ ")"
  | unknownToken s | unknownFunction s | unknownVariable s | incorrectExpression s
  | incorrectBrackets s | wrongArguments s | config s | notANumber s =>
    e.kind ++ "(" ++ Text.quoted s ++ ")"

def missingOperand (owner : String) : Error :=
  .incorrectExpression (between "missing operand for \"" "\"" owner)

def emptyExpression : Error := .incorrectExpression "empty expression"

def emptyArgument : Error := .incorrectExpression "empty argument"

def commaOutsideArguments : Error :=
  .incorrectExpression "comma outside of function arguments"

def commaOutsideBrackets : Error := .incorrectExpression "comma outside of brackets"

def valuesLeft (count : Nat) : Error :=
  .incorrectExpression (toString count ++ " values left on the stack, missing operator")

def unexpected (token : String) : Error :=
  .incorrectExpression (between "unexpected \"" "\"" token)

def unexpectedInSequence (token : String) : Error :=
  .incorrectExpression (between "unexpected \"" "\" in postfix sequence" token)

def mismatchedBracket : Error := .incorrectBrackets "mismatched parenthesis"

end Error

end Reckoner
