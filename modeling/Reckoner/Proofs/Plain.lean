import Reckoner.Proofs.Runs

set_option autoImplicit false

namespace Reckoner

structure PlainCalculator where
  config : Config
  registry : Registry
  bindings : Bindings Float
  tracing : Bool := false
  trace : List Application := []
  result : Option Float := none

namespace PlainCalculator

def compile (c : PlainCalculator) (text : String) : Except Error Expression :=
  Expression.compile c.registry c.config.maxDepth text

def evaluateValue (c : PlainCalculator) (text : String) : Except Error Value × PlainCalculator :=
  match c.compile text with
  | .error e => (.error e, c)
  | .ok e =>
    ((e.run c.bindings).1, { c with trace := if c.tracing then (e.run c.bindings).2 else [] })

def evaluate (c : PlainCalculator) (text : String) : Except Error Float × PlainCalculator :=
  match c.evaluateValue text with
  | (.error e, c) => (.error e, c)
  | (.ok v, c) => (v.toNumber, c)

def chainAs (c : PlainCalculator) (text name : String) : Except Error Unit × PlainCalculator :=
  match c.evaluate text with
  | (.error e, c) => (.error e, c)
  | (.ok x, c) => (.ok (), { c with bindings := c.bindings.set name x, result := some x })

def register (c : PlainCalculator) (g : Registration) : Except Error Unit × PlainCalculator :=
  match c.registry.register g with
  | .error e => (.error e, c)
  | .ok registry => (.ok (), { c with registry })

def loadExtra (c : PlainCalculator) : Except Error Unit × PlainCalculator :=
  let (answer, registry, _) := c.registry.registerAll Comparison.registrations
  (answer, { c with registry })

end PlainCalculator

structure PlainSession where
  calculator : PlainCalculator
  saved : Option PlainCalculator := none

namespace PlainSession

def after {α : Type} (s : PlainSession) (reply : α → Reply)
    (o : Except Error α × PlainCalculator) : Except Error Reply × PlainSession :=
  (o.1.map reply, { s with calculator := o.2 })

def change (s : PlainSession) (c : PlainCalculator) : Except Error Reply × PlainSession :=
  (.ok .done, { s with calculator := c })

def answer (s : PlainSession) (command : Command) : Except Error Reply × PlainSession :=
  let c := s.calculator
  match command with
  | .tokenize text => ((c.registry.tokens text).map .tokens, s)
  | .compile text => ((c.compile text).map fun e => .tokens e.tokens, s)
  | .evaluate text => s.after .number (c.evaluate text)
  | .evaluateValue text => s.after .value (c.evaluateValue text)
  | .chain text => s.after (fun _ => .done) (c.chainAs text chainVariable)
  | .chainAs text name => s.after (fun _ => .done) (c.chainAs text name)
  | .register g => s.after (fun _ => .done) (c.register g)
  | .loadExtra => s.after (fun _ => .done) c.loadExtra
  | .freeze => s.change { c with registry := c.registry.freeze }
  | .setVariable name value => s.change { c with bindings := c.bindings.set name value }
  | .setVariables entries clear =>
    s.change { c with bindings := (if clear then {} else c.bindings).setAll entries }
  | .removeVariable name => s.change { c with bindings := c.bindings.erase name }
  | .removeAllVariables => s.change { c with bindings := {} }
  | .setTrace on => s.change { c with tracing := on, trace := [] }
  | .clearCache => (.ok .done, s)
  | .save => (.ok .done, { s with saved := some c })
  | .restore => s.change (s.saved.getD c)

end PlainSession

def Origin.buildPlain : Origin → Except Error PlainCalculator
  | new =>
    .ok { config := {}, registry := .default {}, bindings := .ofList Builtin.constants }
  | standard config =>
    match config.validate with
    | .error e => .error e
    | .ok () =>
      .ok { config, registry := .default config, bindings := .ofList Builtin.constants }
  | blank config =>
    match config.validate with
    | .error e => .error e
    | .ok () => .ok { config, registry := .basic config.sigil, bindings := {} }

end Reckoner
