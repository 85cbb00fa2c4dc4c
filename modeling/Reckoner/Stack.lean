import Reckoner.Value

/-! The operand stack of an evaluation. It holds values and, where the arguments of a call begin, a
marker. Operators pop their own operands, also when they fail after that, so popping is a
computation that fails with a stack of its own.
-/

set_option autoImplicit false

namespace Reckoner

inductive Operand where
  | value : Value → Operand
  | marker : Operand
  /-- Any other token without a value, known by how it is written. Only operators push it. -/
  | inert : String → Operand
  deriving BEq, Repr

structure Stack where
  /-- The top comes first. -/
  items : List Operand := []
  /-- The values popped so far, the last one first: the order in which the operands were written. -/
  popped : List Value := []

def Stack.push (s : Stack) (o : Operand) : Stack := { s with items := o :: s.items }

abbrev Popping := ExceptT Error (StateM Stack)

def popValue (owner : String) : Popping Value := fun s =>
  match s.items with
  | [] => (.error (.missingOperand owner), s)
  | .value v :: items => (.ok v, ⟨items, v :: s.popped⟩)
  | _ :: items => (.error (.missingOperand owner), { s with items })

def popNumber (owner : String) : Popping Float := do
  match ← popValue owner with
  | .number x => return x
  | .text s => throw (.notANumber s)

theorem popValue_value (owner : String) (v : Value) (items : List Operand) (popped : List Value) :
    popValue owner ⟨.value v :: items, popped⟩ = (.ok v, ⟨items, v :: popped⟩) := rfl

theorem popNumber_number (owner : String) (x : Float) (items : List Operand)
    (popped : List Value) :
    popNumber owner ⟨.value (.number x) :: items, popped⟩ =
      (.ok x, ⟨items, .number x :: popped⟩) := rfl

end Reckoner
