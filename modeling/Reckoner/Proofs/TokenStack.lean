import Mathlib.Data.List.Forall2
import Reckoner.Proofs.MarkerCount

set_option autoImplicit false

namespace Reckoner

def Operand.token : Operand → Token
  | value v => .ofValue v
  | marker => .leftBracket
  | inert s => .var s

namespace TokenStack

def popCount : (count : Nat) → List Value → List Token → Option (List Value × List Token)
  | 0, args, stack => some (args, stack)
  | _ + 1, _, [] => none
  | count + 1, args, t :: stack =>
    match t.value? with
    | some v => popCount count (v :: args) stack
    | none => none

def popToMarker : List Value → List Token → Option (List Value × List Token)
  | _, [] => none
  | args, t :: stack =>
    if t.isMarker then some (args, stack)
    else
      match t.value? with
      | some v => popToMarker (v :: args) stack
      | none => none

def arguments? (f : Callable) (stack : List Token) : Option (List Value × List Token) :=
  match popCount f.minimum [] stack with
  | none => none
  | some (args, stack) =>
    if f.variadic then popToMarker args stack
    else
      match stack with
      | [] => none
      | t :: stack => if t.isMarker then some (args, stack) else none

def collect (f : Callable) (stack : List Token) : Except Error (List Value × List Token) :=
  if Callable.capacity < f.minimum then .error .capacityOverflow
  else
    match arguments? f stack with
    | some collected => .ok collected
    | none => .error (.wrongArguments f.name)

def settle (f : Callable) (args : List Value) (below : List Token) :
    Except Error Value → Except Error (List Token × Option Application)
  | .error e => .error e
  | .ok v => .ok (.ofValue v :: below, some ⟨f.name, args, v⟩)

/-- The function is called in a monad, where every call has its effect. -/
def applyFunction {m : Type → Type} [Monad m] (f : Callable)
    (call : List Value → m (Except Error Value)) (stack : List Token) :
    m (Except Error (List Token × Option Application)) :=
  match collect f stack with
  | .error e => pure (.error e)
  | .ok (args, below) => settle f args below <$> call args

/-- For operators that push nothing, and so leave the bottom of the stack. -/
def applyOperator (o : Operator) (stack : List Token) :
    Except Error (List Token × Option Application) :=
  if stack.isEmpty then .error (.missingOperand o.symbol)
  else
    match o.execute ⟨stack.map Token.operand, []⟩ with
    | (.error e, _) => .error e
    | (.ok v, s) => .ok (.ofValue v :: stack.drop (stack.length - s.items.length),
        some ⟨o.symbol, s.popped, v⟩)

def step (env : String → Option Float) (stack : List Token) :
    Token → Except Error (List Token × Option Application)
  | .var name =>
    match env name with
    | some x => .ok (.number x :: stack, none)
    | none => .error (.unknownVariable name)
  | .operator o => applyOperator o stack
  | .function f => Id.run (applyFunction f (fun args => pure (f.call args)) stack)
  | .rightBracket => .error (.unexpectedInSequence ")")
  | .comma => .error (.unexpectedInSequence ",")
  | t => .ok (t :: stack, none)

def run (env : String → Option Float) (stack : List Token) :
    List Token → Except Error (List Token) × List Application
  | [] => (.ok stack, [])
  | t :: ts =>
    match step env stack t with
    | .error e => (.error e, [])
    | .ok (stack, application) =>
      let (answer, applications) := run env stack ts
      (answer, application.toList ++ applications)

def view (x : List Token × Option Application) : List Operand × Option Application :=
  (x.1.map Token.operand, x.2)

end TokenStack

abbrev Values (group : List Token) (vs : List Value) : Prop :=
  List.Forall₂ (fun t v => t.value? = some v) group vs

/-- Above a left bracket lie tokens with these values, as many as the function takes. The top comes
first, so that the values come last first. -/
def Callable.CalledOnTokens (f : Callable) (stack : List Token) (vs : List Value)
    (below : List Token) : Prop :=
  ∃ group, stack = group ++ .leftBracket :: below ∧ Values group vs.reverse ∧
    f.takes vs.length = true

section

variable {f : Callable} {o : Operator} {args args' vs : List Value} {t u : Token} {n : Nat}
  {stack stack' rest below ts : List Token} {env : String → Option Float}
  {application : Option Application}

theorem isMarker_iff : t.isMarker = true ↔ t = .leftBracket := by
  cases t <;> simp [Token.isMarker]

theorem not_isMarker_of_value? {v : Value} (h : t.value? = some v) : t.isMarker = false := by
  refine Bool.eq_false_iff.2 fun hm => ?_
  rw [isMarker_iff.1 hm] at h
  cases h

theorem minimum_le (h : f.takes n = true) : f.minimum ≤ n := by
  unfold Callable.takes at h
  split at h
  · exact of_decide_eq_true h
  · exact Nat.le_of_eq (of_decide_eq_true h).symm

namespace TokenStack

theorem popCount_iff : popCount n args stack = some (args', rest) ↔
    ∃ group vs, stack = group ++ rest ∧ group.length = n ∧ Values group vs ∧
      args' = vs.reverse ++ args := by
  constructor
  · intro h
    induction n generalizing args stack with
    | zero =>
      cases h
      exact ⟨[], [], rfl, rfl, .nil, rfl⟩
    | succ n ih =>
      cases stack with
      | nil => cases h
      | cons t stack =>
        cases hv : t.value? with
        | none => simp only [popCount, hv, reduceCtorEq] at h
        | some v =>
          simp only [popCount, hv] at h
          obtain ⟨group, vs, rfl, rfl, hvs, rfl⟩ := ih h
          exact ⟨t :: group, v :: vs, rfl, rfl, .cons hv hvs, by simp⟩
  · rintro ⟨group, vs, rfl, rfl, hvs, rfl⟩
    induction hvs generalizing args with
    | nil => rfl
    | cons hv _ ih => simp [popCount, hv, ih]

theorem popToMarker_iff : popToMarker args stack = some (args', below) ↔
    ∃ group vs, stack = group ++ .leftBracket :: below ∧ Values group vs ∧
      args' = vs.reverse ++ args := by
  constructor
  · intro h
    induction stack generalizing args with
    | nil => cases h
    | cons t stack ih =>
      simp only [popToMarker] at h
      split_ifs at h with hm
      · cases h
        exact ⟨[], [], by rw [isMarker_iff.1 hm]; rfl, .nil, rfl⟩
      · cases hv : t.value? with
        | none => simp only [hv, reduceCtorEq] at h
        | some v =>
          simp only [hv] at h
          obtain ⟨group, vs, rfl, hvs, rfl⟩ := ih h
          exact ⟨t :: group, v :: vs, rfl, .cons hv hvs, by simp⟩
  · rintro ⟨group, vs, rfl, hvs, rfl⟩
    induction hvs generalizing args with
    | nil => rfl
    | cons hv _ ih => simp [popToMarker, not_isMarker_of_value? hv, hv, ih]

theorem arguments?_iff :
    arguments? f stack = some (vs, below) ↔ f.CalledOnTokens stack vs below := by
  constructor
  · intro h
    simp only [arguments?] at h
    cases hp : popCount f.minimum [] stack with
    | none => simp only [hp, reduceCtorEq] at h
    | some popped =>
      obtain ⟨first, rest⟩ := popped
      obtain ⟨group, ws, rfl, hn, hws, rfl⟩ := popCount_iff.1 hp
      simp only [hp, List.append_nil] at h
      have hlength : ws.length = f.minimum := by rw [← hws.length_eq, hn]
      split_ifs at h with hv
      · obtain ⟨further, us, rfl, hus, rfl⟩ := popToMarker_iff.1 h
        refine ⟨group ++ further, (List.append_assoc ..).symm, ?_, ?_⟩
        · simpa using List.rel_append hws hus
        · simp [Callable.takes, hv, hlength]
      · cases rest with
        | nil => cases h
        | cons t rest =>
          simp only [Option.ite_none_right_eq_some, Option.some.injEq, Prod.mk.injEq] at h
          obtain ⟨hm, rfl, rfl⟩ := h
          refine ⟨group, by rw [isMarker_iff.1 hm], ?_, ?_⟩
          · rwa [List.reverse_reverse]
          · simp [Callable.takes, hv, hlength]
  · rintro ⟨group, rfl, hvs, ht⟩
    have hle : f.minimum ≤ vs.length := minimum_le ht
    have hlength : group.length = vs.length := by rw [hvs.length_eq, List.length_reverse]
    -- The count takes the upper part of the group; the rest of it is left for the marker.
    have hp : popCount f.minimum [] (group ++ .leftBracket :: below) =
        some ((vs.reverse.take f.minimum).reverse,
          group.drop f.minimum ++ .leftBracket :: below) := by
      refine popCount_iff.2 ⟨group.take f.minimum, _, ?_, ?_, List.forall₂_take _ hvs, ?_⟩
      · rw [← List.append_assoc, List.take_append_drop]
      · rw [List.length_take, hlength, Nat.min_eq_left hle]
      · rw [List.append_nil]
    simp only [arguments?, hp]
    cases hv : f.variadic with
    | true =>
      rw [if_pos rfl]
      refine popToMarker_iff.2 ⟨_, _, rfl, List.forall₂_drop _ hvs, ?_⟩
      rw [← List.reverse_append, List.take_append_drop, List.reverse_reverse]
    | false =>
      have he : vs.length = f.minimum := by simpa [Callable.takes, hv] using ht
      have hdrop : group.drop f.minimum = [] := List.drop_eq_nil_of_le (by omega)
      have htake : vs.reverse.take f.minimum = vs.reverse :=
        List.take_of_length_le (by simp [he])
      rw [hdrop, htake, List.reverse_reverse]
      rfl

theorem arguments?_eq_none_iff :
    arguments? f stack = none ↔ ∀ vs below, ¬ f.CalledOnTokens stack vs below := by
  rw [Option.eq_none_iff_forall_ne_some, Prod.forall]
  simp only [ne_eq, arguments?_iff]

theorem collect_ok_iff : collect f stack = .ok (vs, below) ↔
    f.minimum ≤ Callable.capacity ∧ f.CalledOnTokens stack vs below := by
  rw [← arguments?_iff]
  unfold collect
  by_cases hc : Callable.capacity < f.minimum
  · simp [hc, Nat.not_le_of_lt hc]
  · cases arguments? f stack <;> simp [hc, Nat.le_of_not_lt hc]

theorem collect_of_capacity (h : Callable.capacity < f.minimum) (stack : List Token) :
    collect f stack = .error .capacityOverflow := by
  unfold collect
  rw [if_pos h]

theorem collect_uncalled (hc : f.minimum ≤ Callable.capacity)
    (h : ∀ vs below, ¬ f.CalledOnTokens stack vs below) :
    collect f stack = .error (.wrongArguments f.name) := by
  unfold collect
  rw [if_neg (Nat.not_lt_of_le hc), arguments?_eq_none_iff.2 h]

end TokenStack

theorem operand_token (x : Operand) : x.token.operand = x := by
  rcases x with (_ | _) | _ | _ <;> rfl

namespace TokenStack

theorem popCount_view (n : Nat) (args : List Value) (stack : List Token) :
    Reckoner.popCount n args (stack.map Token.operand) =
      (popCount n args stack).map fun x => (x.1, x.2.map Token.operand) := by
  induction n generalizing args stack with
  | zero => rfl
  | succ n ih =>
    cases stack with
    | nil => rfl
    | cons t stack =>
      cases t <;> simp [Reckoner.popCount, popCount, Token.operand, Token.value?, ih]

theorem popToMarker_view (args : List Value) (stack : List Token) :
    Reckoner.popToMarker args (stack.map Token.operand) =
      (popToMarker args stack).map fun x => (x.1, x.2.map Token.operand) := by
  induction stack generalizing args with
  | nil => rfl
  | cons t stack ih =>
    cases t <;>
      simp [Reckoner.popToMarker, popToMarker, Token.operand, Token.value?, Token.isMarker, ih]

theorem arguments?_view (f : Callable) (stack : List Token) :
    f.arguments? (stack.map Token.operand) =
      (arguments? f stack).map fun x => (x.1, x.2.map Token.operand) := by
  unfold Callable.arguments? arguments?
  rw [popCount_view]
  cases popCount f.minimum [] stack with
  | none => rfl
  | some popped =>
    obtain ⟨args, rest⟩ := popped
    cases f.variadic with
    | true => simpa using popToMarker_view args rest
    | false =>
      cases rest with
      | nil => rfl
      | cons t rest => cases t <;> rfl

theorem collect_view (f : Callable) (stack : List Token) :
    f.collect (stack.map Token.operand) =
      (collect f stack).map fun x => (x.1, x.2.map Token.operand) := by
  unfold Callable.collect collect
  rw [arguments?_view]
  split
  · rfl
  · cases arguments? f stack <;> rfl

theorem applyFunction_view (f : Callable) (stack : List Token) :
    Evaluation.applyFunction f (stack.map Token.operand) =
      (Id.run (applyFunction f (fun args => pure (f.call args)) stack)).map view := by
  simp only [Evaluation.applyFunction, collect_view, applyFunction]
  cases collect f stack with
  | error e => rfl
  | ok collected =>
    obtain ⟨args, below⟩ := collected
    simp only [Except.map, map_pure, Id.run_pure]
    cases f.call args with
    | error e => rfl
    | ok v => cases v <;> rfl

theorem applyOperator_view (ho : Popping.OnlyPops o.execute) (stack : List Token) :
    Evaluation.applyOperator o (stack.map Token.operand) = (applyOperator o stack).map view := by
  simp only [Evaluation.applyOperator, applyOperator, List.isEmpty_map]
  split_ifs
  · rfl
  · cases hx : o.execute ⟨stack.map Token.operand, []⟩ with
    | mk answer s =>
      cases answer with
      | error e => rfl
      | ok v =>
        obtain ⟨vs, hvs⟩ : ∃ vs : List Value, stack.map Token.operand = vs.map .value ++ s.items :=
          ho _ _ _ hx
        have hlength : stack.length = vs.length + s.items.length := by
          simpa using congrArg List.length hvs
        have hleft : (stack.drop (stack.length - s.items.length)).map Token.operand =
            s.items := by
          rw [List.map_drop, hvs]
          exact List.drop_left' (by rw [List.length_map]; omega)
        cases v <;> simp only [Except.map, view, List.map_cons, hleft] <;> rfl

theorem step_view (ho : ∀ o, t = .operator o → Popping.OnlyPops o.execute) (stack : List Token) :
    Evaluation.step env (stack.map Token.operand) t = (step env stack t).map view := by
  cases t with
  | var name => simp only [Evaluation.step, step]; cases env name <;> rfl
  | operator o => exact applyOperator_view (ho o rfl) stack
  | function f => exact applyFunction_view f stack
  | _ => rfl

theorem run_view (ho : ∀ o, .operator o ∈ ts → Popping.OnlyPops o.execute) (stack : List Token) :
    Evaluation.run env (stack.map Token.operand) ts =
      ((run env stack ts).1.map (·.map Token.operand), (run env stack ts).2) := by
  induction ts generalizing stack with
  | nil => rfl
  | cons t ts ih =>
    have ht : Evaluation.step env (stack.map Token.operand) t = (step env stack t).map view :=
      step_view (fun o he => ho o (he ▸ List.mem_cons_self)) stack
    simp only [Evaluation.run, run, ht]
    cases step env stack t with
    | error e => rfl
    | ok next =>
      obtain ⟨next, application⟩ := next
      simp only [Except.map, view, ih (fun o hm => ho o (List.mem_cons_of_mem t hm))]

theorem map_operand_token (items : List Operand) :
    (items.map Operand.token).map Token.operand = items := by
  rw [List.map_map]
  exact List.map_id'' operand_token items

/-- Operands are evaluated as tokens that stand for them. -/
theorem run_operands (ho : ∀ o, .operator o ∈ ts → Popping.OnlyPops o.execute)
    (items : List Operand) :
    Evaluation.run env items ts =
      ((run env (items.map Operand.token) ts).1.map (·.map Token.operand),
        (run env (items.map Operand.token) ts).2) := by
  rw [← run_view ho, map_operand_token]

end TokenStack

end

end Reckoner
