import Reckoner.Token

set_option autoImplicit false

namespace Reckoner

section

variable {α β : Type} {x : Popping α} {f : α → Popping β} {s s' : Stack}

theorem popping_bind {a : α} (h : x s = (.ok a, s')) : (x >>= f) s = f a s' := by
  simp only [bind, ExceptT.bind, ExceptT.mk, StateT.bind, h]
  rfl

theorem popping_bind_error {e : Error} (h : x s = (.error e, s')) :
    (x >>= f) s = (.error e, s') := by
  simp only [bind, ExceptT.bind, ExceptT.mk, StateT.bind, h]
  rfl

theorem popping_bind_ok {b : β} (h : (x >>= f) s = (.ok b, s')) :
    ∃ a next, x s = (.ok a, next) ∧ f a next = (.ok b, s') := by
  cases hx : x s with
  | mk answer next =>
    cases answer with
    | error e =>
      rw [popping_bind_error hx] at h
      cases h
    | ok a =>
      rw [popping_bind hx] at h
      exact ⟨a, next, rfl, h⟩

end

/-- A property of computations that fail with allowed errors only. -/
structure Popping.Law (allowed : Error → Prop) (P : (α : Type) → Popping α → Prop) : Prop where
  pure {α : Type} (a : α) : P α (pure a)
  throw {α : Type} {e : Error} : allowed e → P α (throw e)
  popValue (owner : String) : P Value (popValue owner)
  bind {α β : Type} {p : Popping α} {f : α → Popping β} : P α p → (∀ a, P β (f a)) → P β (p >>= f)

namespace Popping.Law

variable {allowed : Error → Prop} {P : (α : Type) → Popping α → Prop}

theorem popNumber (h : Law allowed P) (hn : ∀ s, allowed (.notANumber s)) (owner : String) :
    P Float (popNumber owner) := by
  refine h.bind (h.popValue owner) fun v => ?_
  cases v with
  | number x => exact h.pure x
  | text s => exact h.throw (hn s)

theorem binary (h : Law allowed P) (hn : ∀ s, allowed (.notANumber s))
    {f : Float → Float → Except Error Float} (hf : ∀ x y e, f x y = .error e → allowed e)
    (symbol : String) (priority : Int) (associativity : Associativity) :
    P Value (Operator.binary symbol priority associativity f).execute := by
  refine h.bind (h.popNumber hn symbol) fun y => h.bind (h.popNumber hn symbol) fun x => ?_
  cases hxy : f x y with
  | ok z => exact h.pure (Value.number z)
  | error e => exact h.throw (hf x y e hxy)

theorem unary (h : Law allowed P) (hn : ∀ s, allowed (.notANumber s))
    {f : Float → Except Error Float} (hf : ∀ x e, f x = .error e → allowed e)
    (symbol : String) (priority : Int) (associativity : Associativity) :
    P Value (Operator.unary symbol priority associativity f).execute := by
  refine h.bind (h.popNumber hn symbol) fun x => ?_
  cases hx : f x with
  | ok z => exact h.pure (Value.number z)
  | error e => exact h.throw (hf x e hx)

end Popping.Law

end Reckoner
