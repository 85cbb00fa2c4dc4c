import Reckoner.Token

/-! Evaluation of tokens in reverse Polish order on an operand stack. Each application of an
operator or function is recorded with its operands and result, also in an evaluation that fails
later.
-/

set_option autoImplicit false

namespace Reckoner

structure Application where
  name : String
  /-- The operands in the order in which they were written. -/
  operands : List Value
  result : Value
  deriving BEq, Repr

def popCount : (count : Nat) → List Value → List Operand → Option (List Value × List Operand)
  | 0, args, items => some (args, items)
  | count + 1, args, .value v :: items => popCount count (v :: args) items
  | _, _, _ => none

def popToMarker : List Value → List Operand → Option (List Value × List Operand)
  | _, [] => none
  | args, .marker :: items => some (args, items)
  | args, .value v :: items => popToMarker (v :: args) items
  | _, .inert _ :: _ => none

namespace Callable

def arguments? (f : Callable) (items : List Operand) : Option (List Value × List Operand) :=
  match popCount f.minimum [] items with
  | none => none
  | some (args, items) =>
    if f.variadic then popToMarker args items
    else
      match items with
      | .marker :: items => some (args, items)
      | _ => none

/-- The most values that memory can be reserved for: each takes 24 bytes, and all of them less than
`2 ^ 63`. -/
def capacity : Nat := 9223372036854775807 / 24

/-- Memory for the arguments that a call needs is reserved before the first is popped. -/
def collect (f : Callable) (items : List Operand) : Except Error (List Value × List Operand) :=
  if capacity < f.minimum then .error .capacityOverflow
  else
    match f.arguments? items with
    | some collected => .ok collected
    | none => .error (.wrongArguments f.name)

variable {f : Callable} {items below : List Operand} {args : List Value} {e : Error}

theorem collect_ok_iff : f.collect items = .ok (args, below) ↔
    f.minimum ≤ capacity ∧ f.arguments? items = some (args, below) := by
  unfold collect
  by_cases hc : capacity < f.minimum
  · simp [hc, Nat.not_le_of_lt hc]
  · cases f.arguments? items <;> simp [hc, Nat.le_of_not_lt hc]

theorem collect_error (h : f.collect items = .error e) :
    e = .capacityOverflow ∨ e = .wrongArguments f.name := by
  unfold collect at h
  split at h
  · cases h
    exact .inl rfl
  · split at h <;> cases h
    exact .inr rfl

end Callable

namespace Evaluation

def applyOperator (o : Operator) (items : List Operand) :
    Except Error (List Operand × Option Application) :=
  if items.isEmpty then .error (.missingOperand o.symbol)
  else
    match o.execute ⟨items, []⟩ with
    | (.error e, _) => .error e
    | (.ok v, s) => .ok (.value v :: s.items, some ⟨o.symbol, s.popped, v⟩)

def applyFunction (f : Callable) (items : List Operand) :
    Except Error (List Operand × Option Application) :=
  match f.collect items with
  | .error e => .error e
  | .ok (args, items) =>
    match f.call args with
    | .error e => .error e
    | .ok v => .ok (.value v :: items, some ⟨f.name, args, v⟩)

def step (env : String → Option Float) (items : List Operand) :
    Token → Except Error (List Operand × Option Application)
  | .number x => .ok (.value (.number x) :: items, none)
  | .text s => .ok (.value (.text s) :: items, none)
  | .identifier s => .ok (.value (.text s) :: items, none)
  | .leftBracket => .ok (.marker :: items, none)
  | .var name =>
    match env name with
    | some x => .ok (.value (.number x) :: items, none)
    | none => .error (.unknownVariable name)
  | .operator o => applyOperator o items
  | .function f => applyFunction f items
  | .rightBracket => .error (.unexpectedInSequence ")")
  | .comma => .error (.unexpectedInSequence ",")

def run (env : String → Option Float) (items : List Operand) :
    List Token → Except Error (List Operand) × List Application
  | [] => (.ok items, [])
  | t :: ts =>
    match step env items t with
    | .error e => (.error e, [])
    | .ok (items, application) =>
      let (answer, applications) := run env items ts
      (answer, application.toList ++ applications)

def result : List Operand → Except Error Value
  | [] => .error .emptyExpression
  | [.value v] => .ok v
  | [.marker] => .error (.unexpected "(")
  | [.inert s] => .error (.unexpected s)
  | items => .error (.valuesLeft items.length)

end Evaluation

def evaluate (env : String → Option Float) (ts : List Token) :
    Except Error Value × List Application :=
  match Evaluation.run env [] ts with
  | (.error e, applications) => (.error e, applications)
  | (.ok items, applications) => (Evaluation.result items, applications)

end Reckoner
