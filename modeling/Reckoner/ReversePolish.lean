import Reckoner.Token

/-! Conversion to reverse Polish order. Operands are written at once; operators, functions and
brackets wait on a stack until what follows shows where they belong. A left bracket that opens the
arguments of a call is also written, as the marker below its arguments.
-/

set_option autoImplicit false

namespace Reckoner

/-- What waits for its operands, or for the bracket that closes it. -/
inductive Waiting where
  | operator : Operator → Waiting
  | function : Callable → Waiting
  | bracket : Waiting

def Waiting.token : Waiting → Token
  | operator o => .operator o
  | function f => .function f
  | bracket => .leftBracket

structure Conversion where
  /-- What is written, last first. -/
  output : List Token := []
  /-- The top comes first. -/
  waiting : List Waiting := []
  depth : Nat := 0
  previous : Option Token := none

def atCall : List Waiting → Bool
  | .function _ :: _ => true
  | _ => false

def toBracket : List Waiting → List Token → Option (List Waiting × List Token)
  | [], _ => none
  | .bracket :: ws, output => some (ws, output)
  | .operator o :: ws, output => toBracket ws (.operator o :: output)
  | .function f :: ws, output => toBracket ws (.function f :: output)

def release (o : Operator) : List Waiting → List Token → List Waiting × List Token
  | .operator p :: ws, output =>
    if o.popsBefore p then release o ws (.operator p :: output) else (.operator p :: ws, output)
  | ws, output => (ws, output)

def finish : List Waiting → List Token → Except Error (List Token)
  | [], output => .ok output.reverse
  | .bracket :: _, _ => .error .mismatchedBracket
  | .operator o :: ws, output => finish ws (.operator o :: output)
  | .function f :: ws, output => finish ws (.function f :: output)

namespace Conversion

def afterComma (s : Conversion) : Bool :=
  match s.previous with
  | some .comma => true
  | _ => false

def afterLeftBracket (s : Conversion) : Bool :=
  match s.previous with
  | some .leftBracket => true
  | _ => false

def operand (s : Conversion) (t : Token) : Conversion :=
  { s with output := t :: s.output, previous := some t }

def function (s : Conversion) (f : Callable) : Conversion :=
  { s with waiting := .function f :: s.waiting, previous := some (.function f) }

def operator (s : Conversion) (o : Operator) : Conversion :=
  let (waiting, output) := release o s.waiting s.output
  { s with output, waiting := .operator o :: waiting, previous := some (.operator o) }

def leftBracket (limit : Nat) (s : Conversion) : Except Error Conversion :=
  if limit < s.depth + 1 then .error (.tooDeep limit)
  else .ok {
    output := if atCall s.waiting then .leftBracket :: s.output else s.output
    waiting := .bracket :: s.waiting
    depth := s.depth + 1
    previous := some .leftBracket }

def comma (s : Conversion) : Except Error Conversion :=
  if s.afterLeftBracket || s.afterComma then .error .emptyArgument
  else
    match toBracket s.waiting s.output with
    | none => .error .commaOutsideBrackets
    | some (waiting, output) =>
      if atCall waiting then
        .ok { s with output, waiting := .bracket :: waiting, previous := some .comma }
      else .error .commaOutsideArguments

def rightBracket (s : Conversion) : Except Error Conversion :=
  if s.afterComma then .error .emptyArgument
  else
    match toBracket s.waiting s.output with
    | none => .error .mismatchedBracket
    | some (.function f :: waiting, output) =>
      .ok ⟨.function f :: output, waiting, s.depth - 1, some .rightBracket⟩
    | some (waiting, output) => .ok ⟨output, waiting, s.depth - 1, some .rightBracket⟩

def step (limit : Nat) (s : Conversion) : Token → Except Error Conversion
  | .number x => .ok (s.operand (.number x))
  | .text t => .ok (s.operand (.text t))
  | .var name => .ok (s.operand (.var name))
  | .identifier name => .ok (s.operand (.identifier name))
  | .function f => .ok (s.function f)
  | .operator o => .ok (s.operator o)
  | .leftBracket => s.leftBracket limit
  | .comma => s.comma
  | .rightBracket => s.rightBracket

def run (limit : Nat) (s : Conversion) : List Token → Except Error Conversion
  | [] => .ok s
  | t :: ts =>
    match s.step limit t with
    | .error e => .error e
    | .ok s => s.run limit ts

end Conversion

/-- The tokens in reverse Polish order; brackets may nest as deep as `limit`. -/
def reversePolish (limit : Nat) (ts : List Token) : Except Error (List Token) :=
  match Conversion.run limit {} ts with
  | .error e => .error e
  | .ok s => finish s.waiting s.output

theorem Conversion.run_append (limit : Nat) (s : Conversion) (ts us : List Token) :
    s.run limit (ts ++ us) =
      match s.run limit ts with
      | .error e => .error e
      | .ok s => s.run limit us := by
  induction ts generalizing s with
  | nil => rfl
  | cons t ts ih =>
    simp only [List.cons_append, run]
    cases s.step limit t with
    | error e => rfl
    | ok s => exact ih s

end Reckoner
