import Reckoner.Expression
import Reckoner.Proofs.Sequences

set_option autoImplicit false

namespace Reckoner

namespace Bindings

variable {α : Type} {name other : String} {value : α}

theorem mem_names_put {entries : List (String × α)} :
    name ∈ (put other value entries).map (·.1) ↔ name = other ∨ name ∈ entries.map (·.1) := by
  induction entries with
  | nil => simp [put]
  | cons e rest ih =>
    obtain ⟨k, v⟩ := e
    simp only [put]
    split
    · next h => simp [h]
    · split
      · simp
      · simp only [List.map_cons, List.mem_cons, ih]
        exact or_left_comm

theorem mem_names_setAll {b : Bindings α} {entries : List (String × α)} :
    name ∈ (b.setAll entries).entries.map (·.1) ↔
      name ∈ b.entries.map (·.1) ∨ name ∈ entries.map (·.1) := by
  induction entries generalizing b with
  | nil => simp [setAll]
  | cons e rest ih =>
    have hset : name ∈ (b.set e.1 e.2).entries.map (·.1) ↔
        name = e.1 ∨ name ∈ b.entries.map (·.1) := mem_names_put
    rw [setAll, List.foldl_cons, ← setAll, ih, hset, List.map_cons, List.mem_cons]
    exact or_right_comm.trans or_comm

end Bindings

theorem Expression.mem_variableNames {e : Expression} {name : String} :
    name ∈ e.variableNames ↔ .var name ∈ e.tokens := by
  have hname (t : Token) : variableName? t = some name ↔ t = .var name := by
    cases t <;> simp [variableName?]
  rw [variableNames, Bindings.ofList, Bindings.mem_names_setAll]
  simp [hname]

/-- Neither an operator nor a function reports a variable as unknown. -/
def Token.Informed : Token → Prop
  | .operator o => ∀ s name, (o.execute s).1 ≠ .error (.unknownVariable name)
  | .function f => ∀ args name, f.call args ≠ .error (.unknownVariable name)
  | _ => True

/-- The variable stands between these parts of a sequence, and is the first without a value. -/
structure FirstUnbound (env : String → Option Float) (ts us : List Token) (name : String)
    (rest : List Token) : Prop where
  place : ts = us ++ .var name :: rest
  unbound : env name = none
  first : ∀ other, .var other ∈ us → ∃ x, env other = some x

namespace Evaluation

variable {env env' : String → Option Float} {items items' : List Operand} {t : Token}
  {ts : List Token} {name : String}

theorem step_congr (h : ∀ name, t = .var name → env' name = env name) (items : List Operand) :
    step env' items t = step env items t := by
  cases t with
  | var name => simp only [step, h name rfl]
  | _ => rfl

theorem step_var {application : Option Application}
    (h : step env items (.var name) = .ok (items', application)) : ∃ x, env name = some x := by
  simp only [step] at h
  cases hx : env name with
  | none => rw [hx] at h; cases h
  | some x => exact ⟨x, rfl⟩

/-- What is evaluated has values for all its variables. -/
theorem run_bound (h : (run env items ts).1 = .ok items') :
    ∀ name, .var name ∈ ts → ∃ x, env name = some x := by
  induction ts generalizing items with
  | nil => nofun
  | cons t ts ih =>
    obtain ⟨next, application, ht, hts⟩ := run_cons_ok h
    intro name hm
    rcases List.mem_cons.1 hm with rfl | hm
    · exact step_var ht
    · exact ih hts name hm

theorem applyOperator_ne {o : Operator} (ho : (Token.operator o).Informed) :
    applyOperator o items ≠ .error (.unknownVariable name) := by
  have hs := ho ⟨items, []⟩ name
  intro h
  simp only [applyOperator] at h
  split at h
  · cases h
  · split at h
    · next e s he =>
      rw [he] at hs
      exact hs (congrArg Except.error (Except.error.inj h))
    · cases h

theorem applyFunction_ne {f : Callable} (hf : (Token.function f).Informed) :
    applyFunction f items ≠ .error (.unknownVariable name) := by
  intro h
  simp only [applyFunction] at h
  split at h
  · next hc =>
    cases h
    rcases Callable.collect_error hc with h | h <;> cases h
  · next args rest _ =>
    have hs := hf args name
    split at h
    · next e he =>
      rw [he] at hs
      exact hs (congrArg Except.error (Except.error.inj h))
    · cases h

theorem step_unknown_iff (ht : t.Informed) :
    step env items t = .error (.unknownVariable name) ↔ t = .var name ∧ env name = none := by
  constructor
  · intro h
    cases t with
    | operator o => exact (applyOperator_ne ht h).elim
    | function f => exact (applyFunction_ne ht h).elim
    | var other =>
      simp only [step] at h
      cases hx : env other with
      | none =>
        rw [hx] at h
        cases h
        exact ⟨rfl, hx⟩
      | some x =>
        rw [hx] at h
        cases h
    | _ => cases h
  · rintro ⟨rfl, hnone⟩
    simp only [step, hnone]

theorem run_unknown_iff (ht : ∀ t ∈ ts, t.Informed) :
    (run env items ts).1 = .error (.unknownVariable name) ↔
      ∃ us rest, FirstUnbound env ts us name rest ∧ ∃ next, (run env items us).1 = .ok next := by
  rw [run_error_iff]
  constructor
  · rintro ⟨us, t, rest, next, rfl, hus, hstep⟩
    have hinformed : t.Informed := ht t (List.mem_append_right us List.mem_cons_self)
    obtain ⟨rfl, hnone⟩ := (step_unknown_iff hinformed).1 hstep
    exact ⟨us, rest, ⟨rfl, hnone, run_bound hus⟩, next, hus⟩
  · rintro ⟨us, rest, ⟨rfl, hnone, -⟩, next, hus⟩
    refine ⟨us, .var name, rest, next, rfl, hus, ?_⟩
    exact (step_unknown_iff (t := .var name) trivial).2 ⟨rfl, hnone⟩

theorem result_ne_unknown (items : List Operand) :
    result items ≠ .error (.unknownVariable name) := by
  rcases items with _ | ⟨v | _, _ | ⟨x, items⟩⟩ <;> nofun

end Evaluation

theorem evaluate_unknown_iff {env : String → Option Float} {ts : List Token} {name : String} :
    (evaluate env ts).1 = .error (.unknownVariable name) ↔
      (Evaluation.run env [] ts).1 = .error (.unknownVariable name) := by
  rw [evaluate_eq]
  cases (Evaluation.run env [] ts).1 with
  | error e =>
    exact ⟨fun h => congrArg Except.error (Except.error.inj h),
      fun h => congrArg Except.error (Except.error.inj h)⟩
  | ok items => exact ⟨fun h => (Evaluation.result_ne_unknown items h).elim, nofun⟩

theorem evaluate_bound {env : String → Option Float} {ts : List Token} {v : Value}
    (h : (evaluate env ts).1 = .ok v) : ∀ name, .var name ∈ ts → ∃ x, env name = some x :=
  Evaluation.run_bound (evaluate_ok h)

/-- The evaluation of an expression depends on the values of its variables only, and needs all of
them. The first without a value is reported, if nothing before it fails. -/
theorem Expression.evaluate_variables (e : Expression) :
    (∀ bound other : Bindings Float,
      (∀ name ∈ e.variableNames, bound.get? name = other.get? name) →
        e.evaluate bound = e.evaluate other ∧ e.run bound = e.run other) ∧
    (∀ (bound : Bindings Float) (v : Value), e.evaluate bound = .ok v →
      ∀ name ∈ e.variableNames, ∃ x, bound.get? name = some x) ∧
    ((∀ t ∈ e.tokens, t.Informed) → ∀ bound : Bindings Float,
      (∀ name, e.evaluate bound = .error (.unknownVariable name) ↔
        ∃ us rest, FirstUnbound bound.get? e.tokens us name rest ∧
          ∃ items, (Evaluation.run bound.get? [] us).1 = .ok items) ∧
      ((∀ name ∈ e.variableNames, ∃ x, bound.get? name = some x) →
        ∀ name, e.evaluate bound ≠ .error (.unknownVariable name))) := by
  simp only [mem_variableNames]
  refine ⟨fun bound other h => ?_, fun bound v h => evaluate_bound h,
    fun ht bound => ⟨fun name => ?_, ?_⟩⟩
  · have hrun : e.run bound = e.run other := by
      have hstep : ∀ t ∈ e.tokens, ∀ items,
          Evaluation.step bound.get? items (id t) = Evaluation.step other.get? items t := by
        intro t hm
        refine Evaluation.step_congr fun name hn => h name ?_
        rwa [← hn]
      simpa [Expression.run] using evaluate_map hstep
    exact ⟨congrArg (·.1) hrun, hrun⟩
  · exact evaluate_unknown_iff.trans (Evaluation.run_unknown_iff ht)
  · intro hall name h
    obtain ⟨us, rest, hu, -⟩ := (Evaluation.run_unknown_iff ht).1 (evaluate_unknown_iff.1 h)
    obtain ⟨x, hx⟩ := hall name (by rw [hu.place]; simp)
    rw [hu.unbound] at hx
    cases hx

theorem Expression.evaluate_variables_sum : ∃ sum : Expression,
    sum.variableNames = ["x", "y"] ∧ (∀ t ∈ sum.tokens, t.Informed) ∧
    sum.evaluate (.ofList [("x", 1)]) = .error (.unknownVariable "y") ∧
    sum.run (.ofList [("x", 1), ("z", 2)]) = sum.run (.ofList [("x", 1)]) ∧
    ∀ name, sum.evaluate (.ofList [("x", 1), ("y", 2)]) ≠ .error (.unknownVariable name) := by
  let sum : Expression := ⟨[.var "x", .var "y", .operator Builtin.plus]⟩
  have hnames : sum.variableNames = ["x", "y"] := by decide
  have hinformed : ∀ t ∈ sum.tokens, t.Informed := by
    simp only [sum, List.forall_mem_cons]
    refine ⟨trivial, trivial, ?_, List.forall_mem_nil _⟩
    rintro ⟨_ | ⟨⟨_ | _⟩ | _, _ | ⟨⟨_ | _⟩ | _, items⟩⟩, popped⟩ name <;> nofun
  obtain ⟨hagree, -, hunknown⟩ := sum.evaluate_variables
  refine ⟨sum, hnames, hinformed, ?_, (hagree _ _ ?_).2, (hunknown hinformed _).2 ?_⟩
  · refine ((hunknown hinformed _).1 "y").2
      ⟨[.var "x"], [.operator Builtin.plus], ⟨rfl, by decide, fun other hm => ?_⟩, _, rfl⟩
    cases List.mem_singleton.1 hm
    exact ⟨1, rfl⟩
  · simp only [hnames, List.forall_mem_cons]
    exact ⟨by decide, by decide, List.forall_mem_nil _⟩
  · simp only [hnames, List.forall_mem_cons]
    exact ⟨⟨1, rfl⟩, ⟨2, rfl⟩, List.forall_mem_nil _⟩

end Reckoner
