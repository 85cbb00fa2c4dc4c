import Reckoner.Evaluation
import Reckoner.Registry

set_option autoImplicit false

namespace Reckoner

inductive Record where
  | token (name : String) (matcher : Matcher)
  | operator (name : String) (priority : Int) (associativity : Associativity)
  | function (name : String) (minimum : Nat) (variadic : Bool)
  | cacheHit (text : String)
  | cacheCleared (entries : Nat)
  | cached (text : String)
  | applied (application : Application)

def Application.line (a : Application) : String :=
  a.name ++ " [" ++ ", ".intercalate (a.operands.map Value.inspect) ++ "] -> " ++ a.result.display

def Record.line : Record → String
  | token name matcher => "DEBUG registering token \"" ++ name ++ "\" (" ++ matcher.inspect ++ ")"
  | operator name priority associativity =>
    "DEBUG registering operator \"" ++ name ++ "\" (priority " ++ toString priority ++ ", " ++
      associativity.inspect ++ ")"
  | function name minimum variadic =>
    "DEBUG registering function \"" ++ name ++ "\" (" ++ toString minimum ++
      " arguments, variadic: " ++ toString variadic ++ ")"
  | cacheHit text => "DEBUG cache hit for \"" ++ text ++ "\""
  | cacheCleared entries =>
    "DEBUG postfix cache full, clearing " ++ toString entries ++ " entries"
  | cached text => "DEBUG caching \"" ++ text ++ "\""
  | applied a => "TRACE " ++ a.line

def Registration.record : Registration → Record
  | token name matcher _ => .token name matcher
  | operator name _ o => .operator name o.priority o.associativity
  | function name minimum variadic call =>
    let f := callable name minimum variadic call
    .function name f.minimum f.variadic

end Reckoner
