import Reckoner.Proofs.TokenStack

set_option autoImplicit false

namespace Reckoner

/-- Above a marker lie these values, as many as the function takes. -/
def Callable.CalledOn (f : Callable) (items : List Operand) (vs : List Value)
    (below : List Operand) : Prop :=
  items = vs.reverse.map .value ++ .marker :: below ∧ f.takes vs.length = true

section

variable {f : Callable} {items below : List Operand} {vs : List Value}

theorem Evaluation.step_overflow (env : String → Option Float) (items : List Operand)
    (hc : Callable.capacity < f.minimum) :
    step env items (.function f) = .error .capacityOverflow := by
  simp [step, applyFunction, Callable.collect, hc]

theorem Evaluation.step_called (env : String → Option Float) (hc : f.minimum ≤ Callable.capacity)
    (h : f.CalledOn items vs below) :
    step env items (.function f) =
      (f.call vs).map fun v => (.value v :: below, some ⟨f.name, vs, v⟩) := by
  obtain ⟨rfl, ht⟩ := h
  rw [step_function, Callable.result, if_neg (Nat.not_lt_of_le hc), if_pos ht]

theorem Evaluation.step_uncalled (env : String → Option Float)
    (hc : f.minimum ≤ Callable.capacity) (h : ∀ vs below, ¬ f.CalledOn items vs below) :
    step env items (.function f) = .error (.wrongArguments f.name) := by
  have hnone : f.arguments? items = none := by
    refine Option.eq_none_iff_forall_ne_some.2 fun ⟨args, below⟩ hargs => ?_
    obtain ⟨ws, rfl⟩ := Callable.arguments?_some hargs
    have ht : ¬ f.takes ws.length = true := fun ht =>
      h ws.reverse below ⟨by rw [List.reverse_reverse], by rwa [List.length_reverse]⟩
    rw [Callable.arguments?_values, if_neg ht] at hargs
    cases hargs
  simp [step, applyFunction, Callable.collect, Nat.not_lt_of_le hc, hnone]

end

/-- A function is called once with its arguments, or not at all. Where memory for as many as it
needs cannot be reserved, no argument is looked at. Calls are seen in any monad, and on tokens of
any kind; the evaluation is the case of a function without effects. -/
theorem Callable.called_once (f : Callable) :
    (∀ {m : Type → Type} [Monad m] (call : List Value → m (Except Error Value))
        (stack : List Token),
      (capacity < f.minimum →
        TokenStack.applyFunction f call stack = pure (.error .capacityOverflow)) ∧
      (f.minimum ≤ capacity →
        (∀ vs below, f.CalledOnTokens stack vs below →
          TokenStack.applyFunction f call stack = TokenStack.settle f vs below <$> call vs) ∧
        ((∀ vs below, ¬ f.CalledOnTokens stack vs below) →
          TokenStack.applyFunction f call stack = pure (.error (.wrongArguments f.name))))) ∧
    ∀ env : String → Option Float,
      (∀ stack : List Token, Evaluation.step env (stack.map Token.operand) (.function f) =
        (Id.run (TokenStack.applyFunction f (fun args => pure (f.call args)) stack)).map
          TokenStack.view) ∧
      ∀ items : List Operand,
        (capacity < f.minimum →
          Evaluation.step env items (.function f) = .error .capacityOverflow) ∧
        (f.minimum ≤ capacity →
          (∀ vs below, f.CalledOn items vs below → Evaluation.step env items (.function f) =
            (f.call vs).map fun v => (.value v :: below, some ⟨f.name, vs, v⟩)) ∧
          ((∀ vs below, ¬ f.CalledOn items vs below) →
            Evaluation.step env items (.function f) = .error (.wrongArguments f.name))) := by
  constructor
  · intro m _ call stack
    refine ⟨fun hc => ?_, fun hc => ⟨fun vs below h => ?_, fun h => ?_⟩⟩
    · simp [TokenStack.applyFunction, TokenStack.collect_of_capacity hc]
    · simp [TokenStack.applyFunction, TokenStack.collect_ok_iff.2 ⟨hc, h⟩]
    · simp [TokenStack.applyFunction, TokenStack.collect_uncalled hc h]
  · intro env
    refine ⟨TokenStack.applyFunction_view f, fun items => ⟨?_, fun hc => ⟨?_, ?_⟩⟩⟩
    · exact Evaluation.step_overflow env items
    · intro vs below
      exact Evaluation.step_called env hc
    · exact Evaluation.step_uncalled env hc

/-- A function that writes its calls down. It is called with the three values above the nearest
bracket, and not at all where a comma lies among the values. -/
theorem Callable.called_once_logged : ∃ f : Callable, f.minimum ≤ capacity ∧
    f.CalledOnTokens [.identifier "a", .number 1, .text "s", .leftBracket, .comma, .leftBracket]
      [.text "s", .number 1, .text "a"] [.comma, .leftBracket] ∧
    (∀ vs below, ¬ f.CalledOnTokens [.number 1, .comma, .number 2, .leftBracket] vs below) ∧
    (∀ call : List Value → StateM (List (List Value)) (Except Error Value),
      call = (fun vs => do modify (vs :: ·); return .ok (.number 3)) →
      (TokenStack.applyFunction f call
          [.identifier "a", .number 1, .text "s", .leftBracket, .comma, .leftBracket]).run [] =
        (.ok ([.number 3, .comma, .leftBracket],
            some ⟨f.name, [.text "s", .number 1, .text "a"], .number 3⟩),
          [[.text "s", .number 1, .text "a"]]) ∧
      (TokenStack.applyFunction f call [.number 1, .comma, .number 2, .leftBracket]).run [] =
        (.error (.wrongArguments f.name), [])) ∧
    f.CalledOn [.value (.text "a"), .value (.number 1), .marker, .marker]
      [.number 1, .text "a"] [.marker] ∧
    ∀ env, Evaluation.step env [.value (.text "a"), .value (.number 1), .marker, .marker]
        (.function f) =
      .ok ([.value (.number 3), .marker], some ⟨f.name, [.number 1, .text "a"], .number 3⟩) := by
  let f : Callable := ⟨"f", 2, true, fun _ => .ok (.number 3)⟩
  have hc : f.minimum ≤ capacity := by decide
  have hcalled : f.CalledOnTokens
      [.identifier "a", .number 1, .text "s", .leftBracket, .comma, .leftBracket]
      [.text "s", .number 1, .text "a"] [.comma, .leftBracket] :=
    ⟨[.identifier "a", .number 1, .text "s"], rfl, .cons rfl (.cons rfl (.cons rfl .nil)), rfl⟩
  have hrefused : ∀ vs below,
      ¬ f.CalledOnTokens [.number 1, .comma, .number 2, .leftBracket] vs below :=
    TokenStack.arguments?_eq_none_iff.1 rfl
  have hon : f.CalledOn [.value (.text "a"), .value (.number 1), .marker, .marker]
      [.number 1, .text "a"] [.marker] := ⟨rfl, rfl⟩
  obtain ⟨honce, hevaluated⟩ := called_once f
  refine ⟨f, hc, hcalled, hrefused, ?_, hon, fun env => (((hevaluated env).2 _).2 hc).1 _ _ hon⟩
  rintro call rfl
  constructor
  · rw [((honce _ _).2 hc).1 _ _ hcalled]
    rfl
  · rw [((honce _ _).2 hc).2 hrefused]
    rfl

/-- One argument is too few for this function, but the call ends before that is seen. -/
theorem Callable.reserved_first : ∃ f : Callable, f.minimum = 1000000000000000000 ∧
    (∀ vs below, ¬ f.CalledOn [.value (.number 1), .marker] vs below) ∧
    ∀ env, Evaluation.step env [.value (.number 1), .marker] (.function f) =
        .error .capacityOverflow ∧
      Evaluation.step env [.value (.number 1), .marker] (.function f) ≠
        .error (.wrongArguments f.name) := by
  let f : Callable := ⟨"f", 1000000000000000000, false, fun _ => .ok (.number 0)⟩
  have hstep (env : String → Option Float) :
      Evaluation.step env [.value (.number 1), .marker] (.function f) = .error .capacityOverflow :=
    Evaluation.step_overflow env _ (by decide)
  refine ⟨f, rfl, fun vs below h => ?_, fun env => ⟨hstep env, ?_⟩⟩
  · obtain ⟨hvs, ht⟩ := h
    have hlength := congrArg List.length hvs
    simp [Callable.takes, f] at hlength ht
    omega
  · rw [hstep]
    simp

end Reckoner
