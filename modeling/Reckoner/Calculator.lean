import Reckoner.Comparison
import Reckoner.Expression
import Reckoner.Record

/-! A calculator: a registry and variables, with a cache of compiled expressions and a trace of the
last evaluation. Operations give their answer, the calculator after them and what they report. One
that fails leaves the registry, the variables and the result as they were.
-/

set_option autoImplicit false

namespace Reckoner

structure Calculator where
  config : Config
  registry : Registry
  bindings : Bindings Float
  cache : Bindings Expression := {}
  cacheHits : Nat := 0
  tracing : Bool := false
  trace : List Application := []
  result : Option Float := none

structure Outcome (α : Type) where
  answer : Except Error α
  calculator : Calculator
  records : List Record := []

def chainVariable : String := "_"

namespace Calculator

def build (config : Config) (registry : Registry) : Calculator :=
  { config, registry, bindings := .ofList Builtin.constants }

def standard (config : Config) : Except Error Calculator :=
  match config.validate with
  | .error e => .error e
  | .ok () => .ok (build config (.default config))

def blank (config : Config) : Except Error Calculator :=
  match config.validate with
  | .error e => .error e
  | .ok () => .ok { config, registry := .basic config.sigil, bindings := {} }

def freeze (c : Calculator) : Calculator := { c with registry := c.registry.freeze }

def setVariable (c : Calculator) (name : String) (value : Float) : Calculator :=
  { c with bindings := c.bindings.set name value }

def removeAllVariables (c : Calculator) : Calculator := { c with bindings := {} }

def setVariables (c : Calculator) (entries : List (String × Float)) (clear : Bool) : Calculator :=
  let c := if clear then c.removeAllVariables else c
  { c with bindings := c.bindings.setAll entries }

def removeVariable (c : Calculator) (name : String) : Calculator :=
  { c with bindings := c.bindings.erase name }

def setTrace (c : Calculator) (on : Bool) : Calculator := { c with tracing := on, trace := [] }

def clearCache (c : Calculator) : Calculator := { c with cache := {} }

/-- A change of the registry empties the cache. -/
def register (c : Calculator) (g : Registration) : Outcome Unit :=
  match c.registry.register g with
  | .error e => ⟨.error e, c, []⟩
  | .ok registry => ⟨.ok (), { c with registry, cache := {} }, [g.record]⟩

def loadExtra (c : Calculator) : Outcome Unit :=
  match c.registry.registerAll Comparison.registrations with
  | (.error e, registry, registered) =>
    ⟨.error e, { c with registry }, registered.map (·.record)⟩
  | (.ok (), registry, registered) =>
    ⟨.ok (), { c with registry, cache := {} }, registered.map (·.record)⟩

def tokens (c : Calculator) (text : String) : Except Error (List Token) := c.registry.tokens text

def compile (c : Calculator) (text : String) : Except Error Expression :=
  Expression.compile c.registry c.config.maxDepth text

def cached? (c : Calculator) (text : String) : Option Expression :=
  if c.config.cache then c.cache.get? text else none

/-- Keeps a compiled expression. A cache that is full is emptied first. -/
def remember (c : Calculator) (text : String) (e : Expression) : Calculator × List Record :=
  if ¬ c.config.cache then (c, [])
  else if c.config.cacheSize ≤ c.cache.size then
    ({ c with cache := ({} : Bindings Expression).set text e },
      [.cacheCleared c.cache.size, .cached text])
  else ({ c with cache := c.cache.set text e }, [.cached text])

def prepare (c : Calculator) (text : String) : Outcome Expression :=
  match c.cached? text with
  | some e => ⟨.ok e, { c with cacheHits := c.cacheHits + 1 }, [.cacheHit text]⟩
  | none =>
    match c.compile text with
    | .error e => ⟨.error e, c, []⟩
    | .ok e =>
      let (c, records) := c.remember text e
      ⟨.ok e, c, records⟩

def evaluateValue (c : Calculator) (text : String) : Outcome Value :=
  match c.prepare text with
  | ⟨.error e, c, records⟩ => ⟨.error e, c, records⟩
  | ⟨.ok e, c, records⟩ =>
    let (answer, applications) := e.run c.bindings
    ⟨answer, { c with trace := if c.tracing then applications else [] },
      records ++ applications.map .applied⟩

def evaluate (c : Calculator) (text : String) : Outcome Float :=
  match c.evaluateValue text with
  | ⟨.error e, c, records⟩ => ⟨.error e, c, records⟩
  | ⟨.ok v, c, records⟩ => ⟨v.toNumber, c, records⟩

def chainAs (c : Calculator) (text name : String) : Outcome Unit :=
  match c.evaluate text with
  | ⟨.error e, c, records⟩ => ⟨.error e, c, records⟩
  | ⟨.ok x, c, records⟩ => ⟨.ok (), { c.setVariable name x with result := some x }, records⟩

def chain (c : Calculator) (text : String) : Outcome Unit := c.chainAs text chainVariable

end Calculator

end Reckoner
