import Reckoner.Builtin
import Reckoner.Evaluation
import Reckoner.Lexeme
import Reckoner.ReversePolish

set_option autoImplicit false

namespace Reckoner

/-- The tokens stand in reverse Polish order. -/
structure Expression where
  tokens : List Token

namespace Expression

def compile (r : Registry) (maxDepth : Nat) (text : String) : Except Error Expression :=
  match r.tokens text with
  | .error e => .error e
  | .ok ts => (reversePolish maxDepth ts).map .mk

def parse (text : String) : Except Error Expression :=
  compile (Registry.default {}) ({} : Config).maxDepth text

def run (e : Expression) (bound : Bindings Float) : Except Error Value × List Application :=
  Reckoner.evaluate bound.get? e.tokens

def evaluate (e : Expression) (bound : Bindings Float) : Except Error Value :=
  (e.run bound).1

def evaluateNumber (e : Expression) (bound : Bindings Float) : Except Error Float :=
  match e.evaluate bound with
  | .error err => .error err
  | .ok v => v.toNumber

def variableName? : Token → Option String
  | .var name => some name
  | _ => none

def variableNames (e : Expression) : List String :=
  (Bindings.ofList ((e.tokens.filterMap variableName?).map (·, ()))).entries.map (·.1)

def same (a b : Expression) : Bool := a.tokens == b.tokens

end Expression

def evaluateText (text : String) (bound : Bindings Float) : Except Error Float :=
  match Expression.parse text with
  | .error e => .error e
  | .ok e => e.evaluateNumber bound

end Reckoner
