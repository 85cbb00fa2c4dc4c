import Reckoner.Proofs.Denotation

set_option autoImplicit false

namespace Reckoner.Evaluation

variable {env env' : String → Option Float} {items items' : List Operand} {t : Token}
  {ts : List Token} {e : Error}

theorem run_append (env : String → Option Float) (items : List Operand) (us vs : List Token) :
    run env items (us ++ vs) = Traced.bind (run env items us) fun next => run env next vs := by
  induction us generalizing items with
  | nil => rfl
  | cons t us ih =>
    simp only [List.cons_append, run]
    cases step env items t with
    | error e => rfl
    | ok next =>
      obtain ⟨next, application⟩ := next
      simp only [ih]
      obtain ⟨e | left, applications⟩ := run env next us
      · rfl
      · simp only [Traced.bind, List.append_assoc]

theorem run_cons_error (h : step env items t = .error e) :
    (run env items (t :: ts)).1 = .error e := by
  simp only [run, h]

theorem run_cons_step {application : Option Application}
    (h : step env items t = .ok (items', application)) :
    (run env items (t :: ts)).1 = (run env items' ts).1 := by
  simp only [run, h]

theorem run_cons_ok (h : (run env items (t :: ts)).1 = .ok items') :
    ∃ next application, step env items t = .ok (next, application) ∧
      (run env next ts).1 = .ok items' := by
  cases ht : step env items t with
  | error e =>
    rw [run_cons_error ht] at h
    cases h
  | ok next =>
    obtain ⟨next, application⟩ := next
    rw [run_cons_step ht] at h
    exact ⟨next, application, rfl, h⟩

/-- A sequence fails with what its first token that fails reports. -/
theorem run_error_iff : (run env items ts).1 = .error e ↔
    ∃ us u rest next, ts = us ++ u :: rest ∧ (run env items us).1 = .ok next ∧
      step env next u = .error e := by
  constructor
  · intro h
    induction ts generalizing items with
    | nil => cases h
    | cons t ts ih =>
      cases ht : step env items t with
      | error e' =>
        rw [run_cons_error ht] at h
        cases h
        exact ⟨[], t, ts, items, rfl, rfl, ht⟩
      | ok next =>
        obtain ⟨next, application⟩ := next
        rw [run_cons_step ht] at h
        obtain ⟨us, u, rest, last, rfl, hus, hu⟩ := ih h
        exact ⟨t :: us, u, rest, last, rfl, by rw [run_cons_step ht, hus], hu⟩
  · rintro ⟨us, u, rest, next, rfl, hus, hu⟩
    obtain ⟨applications, hus⟩ : ∃ applications, run env items us = (.ok next, applications) :=
      ⟨_, Prod.ext hus rfl⟩
    rw [run_append, hus]
    exact run_cons_error hu

theorem result_ok {v : Value} (h : result items = .ok v) : items = [.value v] := by
  unfold result at h
  split at h <;> simp_all

/-- Sequences whose steps are the same, token by token, are evaluated alike. -/
theorem run_map {g : Token → Token}
    (h : ∀ t ∈ ts, ∀ items, step env' items (g t) = step env items t) (items : List Operand) :
    run env' items (ts.map g) = run env items ts := by
  induction ts generalizing items with
  | nil => rfl
  | cons t ts ih =>
    obtain ⟨ht, hts⟩ := List.forall_mem_cons.1 h
    simp only [List.map_cons, run, ht items]
    cases step env items t with
    | error e => rfl
    | ok next => simp only [ih hts]

end Reckoner.Evaluation

namespace Reckoner

theorem evaluate_eq (env : String → Option Float) (ts : List Token) :
    evaluate env ts =
      ((Evaluation.run env [] ts).1.bind Evaluation.result, (Evaluation.run env [] ts).2) := by
  simp only [evaluate]
  obtain ⟨e | items, applications⟩ := Evaluation.run env [] ts <;> rfl

theorem evaluate_ok {env : String → Option Float} {ts : List Token} {v : Value}
    (h : (evaluate env ts).1 = .ok v) : (Evaluation.run env [] ts).1 = .ok [.value v] := by
  rw [evaluate_eq] at h
  cases hr : (Evaluation.run env [] ts).1 with
  | error e =>
    rw [hr] at h
    cases h
  | ok items =>
    rw [hr] at h
    exact congrArg Except.ok (Evaluation.result_ok h)

theorem evaluate_map {env env' : String → Option Float} {ts : List Token} {g : Token → Token}
    (h : ∀ t ∈ ts, ∀ items, Evaluation.step env' items (g t) = Evaluation.step env items t) :
    evaluate env' (ts.map g) = evaluate env ts := by
  simp only [evaluate, Evaluation.run_map h]

end Reckoner
