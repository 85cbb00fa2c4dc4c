import Reckoner.Calculator

set_option autoImplicit false

namespace Reckoner

inductive Command where
  | tokenize (text : String)
  | compile (text : String)
  | evaluate (text : String)
  | evaluateValue (text : String)
  | chain (text : String)
  | chainAs (text name : String)
  | register (registration : Registration)
  | loadExtra
  | freeze
  | setVariable (name : String) (value : Float)
  | setVariables (entries : List (String × Float)) (clear : Bool)
  | removeVariable (name : String)
  | removeAllVariables
  | setTrace (on : Bool)
  | clearCache
  | save
  | restore

inductive Reply where
  | done
  | number (x : Float)
  | value (v : Value)
  | tokens (ts : List Token)

structure Session where
  calculator : Calculator
  saved : Option Calculator := none

namespace Session

def after {α : Type} (s : Session) (reply : α → Reply) (o : Outcome α) :
    Except Error Reply × Session × List Record :=
  (o.answer.map reply, { s with calculator := o.calculator }, o.records)

def change (s : Session) (f : Calculator → Calculator) :
    Except Error Reply × Session × List Record :=
  (.ok .done, { s with calculator := f s.calculator }, [])

def perform (s : Session) : Command → Except Error Reply × Session × List Record
  | .tokenize text => ((s.calculator.tokens text).map .tokens, s, [])
  | .compile text => ((s.calculator.compile text).map fun e => .tokens e.tokens, s, [])
  | .evaluate text => s.after .number (s.calculator.evaluate text)
  | .evaluateValue text => s.after .value (s.calculator.evaluateValue text)
  | .chain text => s.after (fun _ => .done) (s.calculator.chain text)
  | .chainAs text name => s.after (fun _ => .done) (s.calculator.chainAs text name)
  | .register g => s.after (fun _ => .done) (s.calculator.register g)
  | .loadExtra => s.after (fun _ => .done) s.calculator.loadExtra
  | .freeze => s.change .freeze
  | .setVariable name value => s.change (·.setVariable name value)
  | .setVariables entries clear => s.change (·.setVariables entries clear)
  | .removeVariable name => s.change (·.removeVariable name)
  | .removeAllVariables => s.change .removeAllVariables
  | .setTrace on => s.change (·.setTrace on)
  | .clearCache => s.change .clearCache
  | .save => (.ok .done, { s with saved := some s.calculator }, [])
  | .restore => (.ok .done, { s with calculator := s.saved.getD s.calculator }, [])

end Session

end Reckoner
