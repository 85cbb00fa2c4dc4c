import Reckoner.Bindings
import Reckoner.Matcher
import Reckoner.Text.Alphanumeric

/-! The rules that turn lexemes into tokens, and the functions that can be called. Rules are tried
in order and the first that accepts wins. A new operator goes before all rules and any other new
rule after them; a rule whose name is taken replaces the old one where it stands.
-/

set_option autoImplicit false

namespace Reckoner

structure Rule where
  name : String
  matcher : Matcher
  build : String → Except Error Token

structure Registry where
  rules : List Rule := []
  functions : Bindings Callable := {}
  sigil : Char
  frozen : Bool := false

inductive Registration where
  | token (name : String) (matcher : Matcher) (build : String → Except Error Token)
  | operator (name : String) (matcher : Matcher) (operator : Operator)
  /-- A minimum of `-1` asks for no argument and allows any number. -/
  | function (name : String) (minimum : Int) (variadic : Bool)
      (call : List Value → Except Error Value)

def callable (name : String) (minimum : Int) (variadic : Bool)
    (call : List Value → Except Error Value) : Callable :=
  ⟨name, minimum.toNat, variadic || decide (minimum < 0), call⟩

def place (inFront : Bool) (rule : Rule) (rules : List Rule) : List Rule :=
  if rules.any (·.name == rule.name) then
    rules.map fun old => if old.name = rule.name then rule else old
  else if inFront then rule :: rules
  else rules ++ [rule]

def checkRule (name : String) (matcher : Matcher) : Except Error Unit :=
  if name = "" then .error (.config "token name can not be empty")
  else
    match matcher with
    | .literal s =>
      if s = "" ∨ s.toList.any Text.isBlank then
        .error (.config ("token \"" ++ name ++ "\" has an invalid pattern \"" ++ s ++ "\""))
      else .ok ()
    | _ => .ok ()

def checkFunction (name : String) (minimum : Int) : Except Error Unit :=
  if ¬ Text.isIdentifier name.toList then
    .error (.config ("invalid function name \"" ++ name ++ "\""))
  else if minimum < -1 then
    .error (.config
      ("function \"" ++ name ++ "\" can not require " ++ toString minimum ++ " arguments"))
  else .ok ()

def Registration.check : Registration → Except Error Unit
  | token name matcher _ => checkRule name matcher
  | operator name matcher _ => checkRule name matcher
  | function name minimum _ _ => checkFunction name minimum

namespace Registry

def bare (sigil : Char) : Registry := { sigil }

def insert (r : Registry) : Registration → Registry
  | .token name matcher build => { r with rules := place false ⟨name, matcher, build⟩ r.rules }
  | .operator name matcher o =>
    { r with rules := place true ⟨name, matcher, fun _ => .ok (.operator o)⟩ r.rules }
  | .function name minimum variadic call =>
    { r with functions := r.functions.set name (callable name minimum variadic call) }

def insertAll (r : Registry) (gs : List Registration) : Registry := gs.foldl insert r

def register (r : Registry) (g : Registration) : Except Error Registry :=
  if r.frozen then .error (.config "registry is frozen")
  else
    match g.check with
    | .error e => .error e
    | .ok () => .ok (r.insert g)

/-- Registers in order up to the first refusal. What was registered before it stays registered, and
is given last. -/
def registerAll (r : Registry) :
    List Registration → Except Error Unit × Registry × List Registration
  | [] => (.ok (), r, [])
  | g :: gs =>
    match r.register g with
    | .error e => (.error e, r, [])
    | .ok r =>
      let (answer, r, registered) := r.registerAll gs
      (answer, r, g :: registered)

def freeze (r : Registry) : Registry := { r with frozen := true }

def buildNumber (lexeme : String) : Except Error Token :=
  match Number.read? lexeme.toList with
  | some x => .ok (.number x)
  | none => .error (.unknownToken lexeme)

def buildText (lexeme : String) : Except Error Token :=
  .ok (.text (.ofList (lexeme.toList.drop 1).dropLast))

def buildVariable (lexeme : String) : Except Error Token :=
  .ok (.var (.ofList (lexeme.toList.drop 1)))

def basic (sigil : Char) : Registry where
  sigil := sigil
  rules := [
    ⟨"number", .numeral, buildNumber⟩,
    ⟨"string", .quoted, buildText⟩,
    ⟨"variable", .reference sigil, buildVariable⟩,
    ⟨"left_bracket", .literal "(", fun _ => .ok .leftBracket⟩,
    ⟨"right_bracket", .literal ")", fun _ => .ok .rightBracket⟩,
    ⟨"comma", .literal ",", fun _ => .ok .comma⟩]

def ruleNames (r : Registry) : List String := r.rules.map (·.name)

def function? (r : Registry) (name : String) : Option Callable := r.functions.get? name

def resolveFunction (r : Registry) (name : String) : Except Error Token :=
  match r.function? name with
  | some f => .ok (.function f)
  | none => .error (.unknownFunction name)

/-- The token of a lexeme, given the tokens before it, last first, and whether a left bracket comes
next. The name of a function before a bracket is a call whatever the rules say. -/
def resolve (r : Registry) (lexeme : String) (preceding : List Token) (called : Bool) :
    Except Error Token :=
  if called && (r.function? lexeme).isSome then r.resolveFunction lexeme
  else
    match r.rules.find? (·.matcher.accepts lexeme preceding) with
    | some rule => rule.build lexeme
    | none =>
      if called && Text.isIdentifier lexeme.toList then r.resolveFunction lexeme
      else .error (.unknownToken lexeme)

end Registry

def isWordPart (c : Char) : Bool := c == '_' || c == '.' || Text.isAlphanumeric c

def Matcher.symbol? : Matcher → Option String
  | .literal s => if s.toList.any isWordPart then none else some s
  | _ => none

/-- Longer symbols come first, and those of one length in their order as texts. -/
def symbolBefore (s t : String) : Bool :=
  decide (t.utf8ByteSize < s.utf8ByteSize) ||
    decide (s.utf8ByteSize = t.utf8ByteSize) && decide (s < t)

def addSymbol (s : String) : List String → List String
  | [] => [s]
  | t :: ts =>
    if s = t then t :: ts else if symbolBefore s t then s :: t :: ts else t :: addSymbol s ts

def Registry.symbols (r : Registry) : List String :=
  (r.rules.filterMap (·.matcher.symbol?)).foldr addSymbol []

theorem mem_addSymbol {s u : String} {ts : List String} :
    u ∈ addSymbol s ts ↔ u = s ∨ u ∈ ts := by
  induction ts with
  | nil => simp [addSymbol]
  | cons t ts ih =>
    simp only [addSymbol]
    split
    · next h => subst h; simp
    · split
      · simp
      · simp only [List.mem_cons, ih]
        exact or_left_comm

def Rule.inspect (rule : Rule) : String :=
  "TokenRule \x7b name: " ++ Text.quoted rule.name ++ ", matcher: " ++ rule.matcher.inspect ++
    " \x7d"

def Registry.inspect (r : Registry) : String :=
  let rules := r.rules.map Rule.inspect
  let functions := r.functions.entries.map fun e => Text.quoted e.1 ++ ": " ++ e.2.inspect
  "Registry \x7b rules: [" ++ ", ".intercalate rules ++ "], functions: \x7b" ++
    ", ".intercalate functions ++ "\x7d, variable_prefix: " ++ Text.quotedChar r.sigil ++
    ", frozen: " ++ toString r.frozen ++ " \x7d"

end Reckoner
