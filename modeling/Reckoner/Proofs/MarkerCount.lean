import Reckoner.Builtin
import Reckoner.Proofs.Markers
import Reckoner.Proofs.Reconstruction
import Reckoner.Proofs.Sequences

/-! The markers on the operand stack. Each marker that is read lies there until a function takes it
with its arguments, since operators pop values only. The conversion writes a function for each
marker, so that no marker is left at the end of what it wrote.
-/

set_option autoImplicit false

namespace Reckoner

def Operand.isMarker : Operand → Bool
  | marker => true
  | _ => false

def Token.isFunction : Token → Bool
  | function _ => true
  | _ => false

/-- The computation succeeds only when all it did to the stack was to pop values. -/
def Popping.OnlyPops {α : Type} (p : Popping α) : Prop :=
  ∀ s a s', p s = (.ok a, s') → ∃ vs : List Value, s.items = vs.map .value ++ s'.items

theorem Popping.law_onlyPops : Law (fun _ => True) @OnlyPops where
  pure a := by
    intro s b s' h
    cases h
    exact ⟨[], rfl⟩
  throw _ := by
    intro s b s' h
    cases h
  popValue owner := by
    rintro ⟨_ | ⟨v | _ | _, items⟩, popped⟩ a s' h
    · cases h
    · cases h
      exact ⟨[v], rfl⟩
    · cases h
    · cases h
  bind hp hf := by
    intro s b s' h
    obtain ⟨a, next, ha, hb⟩ := popping_bind_ok h
    obtain ⟨vs, hvs⟩ := hp s a next ha
    obtain ⟨ws, hws⟩ := hf a next b s' hb
    exact ⟨vs ++ ws, by rw [hvs, hws, List.map_append, List.append_assoc]⟩

/-- An operator on numbers, or one that does nothing to the stack but pop values. -/
inductive Operator.Orderly : Operator → Prop where
  | binary (symbol : String) (priority : Int) (associativity : Associativity)
      (f : Float → Float → Except Error Float) :
      Orderly (.binary symbol priority associativity f)
  | unary (symbol : String) (priority : Int) (associativity : Associativity)
      (f : Float → Except Error Float) : Orderly (.unary symbol priority associativity f)
  | popping {o : Operator} : Popping.OnlyPops o.execute → Orderly o

theorem Operator.Orderly.onlyPops {o : Operator} (h : o.Orderly) :
    Popping.OnlyPops o.execute := by
  cases h with
  | binary symbol priority associativity f =>
    exact Popping.law_onlyPops.binary (fun _ => trivial) (fun _ _ _ _ => trivial) _ _ _
  | unary symbol priority associativity f =>
    exact Popping.law_onlyPops.unary (fun _ => trivial) (fun _ _ _ => trivial) _ _ _
  | popping h => exact h

/-- Values are popped, by a function a marker below them too. A marker is pushed for a marker, and
else a value. -/
def Exchange (t : Token) (items items' : List Operand) : Prop :=
  ∃ (vs : List Value) (below : List Operand) (x : Operand),
    items = vs.map .value ++ (List.replicate ([t].countP (·.isFunction)) .marker ++ below) ∧
    items' = x :: below ∧
    (x = .marker ∧ t.isMarker = true ∨ (∃ v, x = .value v) ∧ t.isMarker = false)

theorem countP_values (vs : List Value) (items : List Operand) :
    (vs.map Operand.value ++ items).countP (·.isMarker) = items.countP (·.isMarker) := by
  induction vs with
  | nil => rfl
  | cons v vs ih => simp only [List.map_cons, List.cons_append, List.countP_cons, ih]; rfl

namespace Evaluation

variable {env : String → Option Float} {items items' : List Operand} {t : Token}
  {ts : List Token} {application : Option Application}

theorem operator_operands {o : Operator} (ho : o.Orderly)
    (h : step env items (.operator o) = .ok (items', application)) :
    ∃ (vs : List Value) (v : Value) (below : List Operand),
      items = vs.map .value ++ below ∧ items' = .value v :: below := by
  simp only [step, applyOperator] at h
  split at h
  · cases h
  · split at h
    · cases h
    · next v s hv =>
      cases h
      obtain ⟨vs, hvs⟩ := ho.onlyPops _ _ _ hv
      exact ⟨vs, v, s.items, hvs, rfl⟩

theorem step_exchange (ho : ∀ o, t = .operator o → o.Orderly)
    (h : step env items t = .ok (items', application)) : Exchange t items items' := by
  have hatom (a : Atom) (ha : a.token = t) (hm : t.isMarker = false) (hf : t.isFunction = false) :
      Exchange t items items' := by
    subst ha
    obtain ⟨v, hv⟩ := atom_operand h
    exact ⟨[], items, .value v, by simp [hf], hv, .inr ⟨⟨v, rfl⟩, hm⟩⟩
  cases t with
  | number x => exact hatom (.number x) rfl rfl rfl
  | text s => exact hatom (.text s) rfl rfl rfl
  | var name => exact hatom (.var name) rfl rfl rfl
  | identifier s => exact hatom (.identifier s) rfl rfl rfl
  | leftBracket =>
    cases h
    exact ⟨[], items, .marker, rfl, rfl, .inl ⟨rfl, rfl⟩⟩
  | rightBracket => cases h
  | comma => cases h
  | operator o =>
    obtain ⟨vs, v, below, hvs, hv⟩ := operator_operands (ho o rfl) h
    exact ⟨vs, below, _, hvs, hv, .inr ⟨⟨v, rfl⟩, rfl⟩⟩
  | function f =>
    obtain ⟨vs, v, below, hvs, hv⟩ := function_operands h
    exact ⟨vs, below, _, hvs, hv, .inr ⟨⟨v, rfl⟩, rfl⟩⟩

theorem step_markers (ho : ∀ o, t = .operator o → o.Orderly)
    (h : step env items t = .ok (items', application)) :
    items'.countP (·.isMarker) + [t].countP (·.isFunction) =
      items.countP (·.isMarker) + [t].countP (·.isMarker) := by
  obtain ⟨vs, below, x, rfl, rfl, hx⟩ := step_exchange ho h
  rw [countP_values, List.countP_append, List.countP_replicate]
  obtain ⟨rfl, ht⟩ | ⟨⟨v, rfl⟩, ht⟩ := hx <;> simp [Operand.isMarker, ht] <;> omega

theorem step_not_inert (ho : ∀ o, t = .operator o → o.Orderly)
    (h : step env items t = .ok (items', application)) (hi : ∀ s, .inert s ∉ items) :
    ∀ s, .inert s ∉ items' := by
  obtain ⟨vs, below, x, rfl, rfl, hx⟩ := step_exchange ho h
  intro s
  obtain ⟨rfl, -⟩ | ⟨⟨v, rfl⟩, -⟩ := hx <;> simp_all

theorem run_markers (ho : ∀ o, .operator o ∈ ts → o.Orderly)
    (h : (run env items ts).1 = .ok items') :
    items'.countP (·.isMarker) + ts.countP (·.isFunction) =
      items.countP (·.isMarker) + ts.countP (·.isMarker) := by
  induction ts generalizing items with
  | nil =>
    cases h
    rfl
  | cons t ts ih =>
    obtain ⟨next, application, ht, hts⟩ := run_cons_ok h
    have hstep := step_markers (fun o he => ho o (he ▸ List.mem_cons_self)) ht
    have hrest := ih (fun o hm => ho o (List.mem_cons_of_mem t hm)) hts
    have hcons (q : Token → Bool) : (t :: ts).countP q = [t].countP q + ts.countP q :=
      @List.countP_append _ q [t] ts
    rw [hcons, hcons]
    omega

theorem run_not_inert (ho : ∀ o, .operator o ∈ ts → o.Orderly)
    (h : (run env items ts).1 = .ok items') (hi : ∀ s, .inert s ∉ items) :
    ∀ s, .inert s ∉ items' := by
  induction ts generalizing items with
  | nil =>
    cases h
    exact hi
  | cons t ts ih =>
    obtain ⟨next, application, ht, hts⟩ := run_cons_ok h
    have hnext := step_not_inert (fun o he => ho o (he ▸ List.mem_cons_self)) ht hi
    exact ih (fun o hm => ho o (List.mem_cons_of_mem t hm)) hts hnext

end Evaluation

theorem Nested.countP_le {alone : Prop} {p : List Token} (h : Nested alone p) :
    p.countP (·.isMarker) ≤ p.countP (·.isFunction) := by
  induction h with
  | nil => exact Nat.le_refl 0
  | other hm _ => simp [hm]
  | function f _ => exact Nat.zero_le _
  | @call us f _ ih =>
    have hmarkers : (Token.leftBracket :: (us ++ [.function f])).countP (·.isMarker) =
        us.countP (·.isMarker) + 1 := by simp [Token.isMarker]
    have hfunctions : (Token.leftBracket :: (us ++ [.function f])).countP (·.isFunction) =
        us.countP (·.isFunction) + 1 := by simp [Token.isFunction]
    omega
  | append _ _ ih ih' =>
    rw [List.countP_append, List.countP_append]
    exact Nat.add_le_add ih ih'

section

variable {limit : Nat} {ts p : List Token}

theorem orderly_reversePolish (h : reversePolish limit ts = .ok p)
    (ho : ∀ o, .operator o ∈ ts → o.Orderly) : ∀ o, .operator o ∈ p → o.Orderly := by
  have hsame : ∀ t ∈ ts, ∀ o, t = .operator o → o.Orderly := by
    rintro t ht o rfl
    exact ho o ht
  exact fun o hm => reversePolish_among (P := fun t => ∀ o, t = .operator o → o.Orderly) nofun
    hsame h _ hm o rfl

/-- What the conversion wrote is evaluated without coming to a bracket or comma that should not be
there. The markers on the stack are those that were read, less one for each function applied, and a
single operand that is left is a value. -/
theorem evaluate_reversePolish (h : reversePolish limit ts = .ok p)
    (ho : ∀ o, .operator o ∈ ts → o.Orderly) (env : String → Option Float) :
    .rightBracket ∉ p ∧ .comma ∉ p ∧
    (∀ e, (Evaluation.run env [] p).1 = .error e → ∃ us t rest items, p = us ++ t :: rest ∧
      (Evaluation.run env [] us).1 = .ok items ∧ Evaluation.step env items t = .error e ∧
      t.isKept = true) ∧
    (∀ us rest items, p = us ++ rest → (Evaluation.run env [] us).1 = .ok items →
      items.countP (·.isMarker) + us.countP (·.isFunction) = us.countP (·.isMarker)) ∧
    ∀ item applications, Evaluation.run env [] p = (.ok [item], applications) →
      ∃ v, item = .value v ∧ evaluate env p = (.ok v, applications) := by
  obtain ⟨places, hplaces⟩ := reversePolish_placement h
  have hop := orderly_reversePolish h ho
  have hmarkers : ∀ us rest items, p = us ++ rest → (Evaluation.run env [] us).1 = .ok items →
      items.countP (·.isMarker) + us.countP (·.isFunction) = us.countP (·.isMarker) := by
    rintro us rest items rfl hr
    have hrun := Evaluation.run_markers (fun o hm => hop o (List.mem_append_left _ hm)) hr
    rwa [List.countP_nil, Nat.zero_add] at hrun
  refine ⟨fun hm => Bool.false_ne_true (hplaces.isKept hm rfl),
    fun hm => Bool.false_ne_true (hplaces.isKept hm rfl), fun e he => ?_, hmarkers,
    fun item applications hr => ?_⟩
  · obtain ⟨us, t, rest, items, hp, hus, ht⟩ := Evaluation.run_error_iff.1 he
    have hm : t ∈ p := by rw [hp]; exact List.mem_append_right us List.mem_cons_self
    refine ⟨us, t, rest, items, hp, hus, ht, hplaces.isKept hm ?_⟩
    cases t with
    | leftBracket => cases ht
    | _ => rfl
  · have hall := hmarkers p [] [item] (List.append_nil p).symm (by rw [hr])
    have hle := (reversePolish_nested h).countP_le
    cases item with
    | marker =>
      have hone : [Operand.marker].countP (·.isMarker) = 1 := rfl
      omega
    | inert s =>
      have hi := Evaluation.run_not_inert hop (by rw [hr]) (fun _ => List.not_mem_nil) s
      exact (hi List.mem_cons_self).elim
    | value v => exact ⟨v, rfl, by simp only [evaluate, hr]; rfl⟩

end

theorem evaluate_reversePolish_sum : ∃ f : Callable, ∃ p : List Token,
    reversePolish 1 (callTokens f ++ [.operator Builtin.plus, .number 1]) = .ok p ∧
    (∀ o, .operator o ∈ callTokens f ++ [.operator Builtin.plus, .number 1] → o.Orderly) ∧
    (∃ items, (Evaluation.run (fun _ => some 1) [] (p.take 3)).1 = .ok items ∧
      items.countP (·.isMarker) = 1) ∧
    ∃ v, (evaluate (fun _ => some 1) p).1 = .ok v := by
  let f : Callable := ⟨"f", 1, true, fun _ => .ok (.number 1)⟩
  have h : reversePolish 1 (callTokens f ++ [.operator Builtin.plus, .number 1]) =
      .ok [.leftBracket, .var "x", .var "y", .function f, .number 1, .operator Builtin.plus] := rfl
  have ho : ∀ o, .operator o ∈ callTokens f ++ [.operator Builtin.plus, .number 1] →
      o.Orderly := by
    intro o hm
    obtain rfl : o = Builtin.plus := by simpa [callTokens] using hm
    exact .binary _ _ _ _
  obtain ⟨-, -, -, hmarkers, hvalue⟩ := evaluate_reversePolish h ho (fun _ => some 1)
  obtain ⟨v, -, hv⟩ := hvalue _ _ rfl
  refine ⟨f, _, h, ho, ⟨_, rfl, ?_⟩, v, by rw [hv]⟩
  exact hmarkers [.leftBracket, .var "x", .var "y"] _ _ rfl rfl

end Reckoner
