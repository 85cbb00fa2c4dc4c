import Reckoner.Proofs.TokenStack

/-! The bracket of a call as a fence. A sequence that has no more functions than brackets up to any
of its places never comes to what lies below the bracket that it begins above. It fails in the same
way, or leaves the same, whatever lies there. Operators may be at places where their operands are
missing: they stop at the bracket.
-/

set_option autoImplicit false

namespace Reckoner

inductive Operator.OfNumbers : Operator → Prop where
  | binary (symbol : String) (priority : Int) (associativity : Associativity)
      (f : Float → Float → Except Error Float) :
      OfNumbers (.binary symbol priority associativity f)
  | unary (symbol : String) (priority : Int) (associativity : Associativity)
      (f : Float → Except Error Float) : OfNumbers (.unary symbol priority associativity f)

/-- What is computed from this above the fence does not depend on what lies below, and leaves it
and the fence as they were. -/
def Fenced {σ : Type} (fence : σ) (run : List σ → Except Error (List σ) × List Application)
    (above : List σ) : Prop :=
  (∃ e applications, ∀ below, run (above ++ fence :: below) = (.error e, applications)) ∨
  ∃ left applications, ∀ below,
    run (above ++ fence :: below) = (.ok (left ++ fence :: below), applications)

namespace Popping

def Fenced {α : Type} (p : Popping α) : Prop :=
  ∀ (above : List Operand) (popped : List Value),
    (∃ e, ∀ below, (p ⟨above ++ .marker :: below, popped⟩).1 = .error e) ∨
    ∃ (a : α) (vs : List Value) (left : List Operand) (popped' : List Value),
      above = vs.map .value ++ left ∧
      ∀ below, p ⟨above ++ .marker :: below, popped⟩ = (.ok a, ⟨left ++ .marker :: below, popped'⟩)

theorem law_fenced : Law (fun _ => True) @Fenced where
  pure a := fun above popped => .inr ⟨a, [], above, popped, rfl, fun _ => rfl⟩
  throw _ := fun _ _ => .inl ⟨_, fun _ => rfl⟩
  popValue owner := by
    rintro (_ | ⟨v | _ | _, above⟩) popped
    · exact .inl ⟨_, fun _ => rfl⟩
    · exact .inr ⟨v, [v], above, v :: popped, rfl, fun _ => rfl⟩
    · exact .inl ⟨_, fun _ => rfl⟩
    · exact .inl ⟨_, fun _ => rfl⟩
  bind hp hf := by
    intro above popped
    obtain ⟨e, he⟩ | ⟨a, vs, left, popped', rfl, ha⟩ := hp above popped
    · refine .inl ⟨e, fun below => ?_⟩
      rw [popping_bind_error (Prod.ext (he below) rfl)]
    · obtain ⟨e, he⟩ | ⟨b, ws, left', popped'', rfl, hb⟩ := hf a left popped'
      · refine .inl ⟨e, fun below => ?_⟩
        rw [popping_bind (ha below)]
        exact he below
      · refine .inr ⟨b, vs ++ ws, left', popped'', ?_, fun below => ?_⟩
        · rw [List.map_append, List.append_assoc]
        · rw [popping_bind (ha below)]
          exact hb below

end Popping

theorem Operator.OfNumbers.law {P : (α : Type) → Popping α → Prop}
    (hl : Popping.Law (fun _ => True) P) {o : Operator} (ho : o.OfNumbers) :
    P Value o.execute := by
  cases ho with
  | binary symbol priority associativity f =>
    exact hl.binary (fun _ => trivial) (fun _ _ _ _ => trivial) _ _ _
  | unary symbol priority associativity f =>
    exact hl.unary (fun _ => trivial) (fun _ _ _ => trivial) _ _ _

/-- A step above a left bracket fails, or leaves so many brackets above it, whatever lies below. -/
def FencedStep (next : List Token → Except Error (List Token × Option Application))
    (above : List Token) (markers : Nat) : Prop :=
  (∃ e, ∀ below, next (above ++ .leftBracket :: below) = .error e) ∨
  ∃ left application, left.countP (·.isMarker) = markers ∧ ∀ below,
    next (above ++ .leftBracket :: below) = .ok (left ++ .leftBracket :: below, application)

section

variable {f : Callable} {o : Operator} {t : Token} {q above group rest below : List Token}
  {vs : List Value}

theorem Values.unmarked (h : Values group vs) : group.countP (·.isMarker) = 0 := by
  induction h with
  | nil => rfl
  | cons hv _ ih => rw [List.countP_cons, ih, not_isMarker_of_value? hv]; rfl

/-- The call is on what lies above the fence, if there is a bracket for it. -/
theorem calledOnTokens_above (hm : 0 < above.countP (·.isMarker))
    (h : f.CalledOnTokens (above ++ .leftBracket :: below) vs rest) :
    ∃ left, f.CalledOnTokens above vs left := by
  obtain ⟨group, he, hvs, ht⟩ := h
  have hgroup := hvs.unmarked
  -- A group that ends at the fence or below it would have a bracket in it.
  obtain ⟨us, rfl, -⟩ | ⟨us, rfl, hus⟩ := List.append_eq_append_iff.1 he
  · rw [List.countP_append] at hgroup
    omega
  · cases us with
    | nil =>
      rw [List.append_nil] at hm
      omega
    | cons u us =>
      obtain ⟨rfl, -⟩ := List.cons.inj hus
      exact ⟨us, group, rfl, hvs, ht⟩

theorem countP_drop_of_view {left : List Operand}
    (h : above.map Token.operand = vs.map .value ++ left) :
    (above.drop vs.length).countP (·.isMarker) = above.countP (·.isMarker) := by
  have htake : (above.take vs.length).map Token.operand = vs.map .value := by
    rw [List.map_take, h, List.take_left' (List.length_map _)]
  have hzero : (above.take vs.length).countP (·.isMarker) = 0 := by
    refine List.countP_eq_zero.2 fun t ht hm => ?_
    obtain rfl := isMarker_iff.1 hm
    have hmem : Token.leftBracket.operand ∈ vs.map Operand.value :=
      htake ▸ List.mem_map_of_mem ht
    obtain ⟨v, -, hv⟩ := List.mem_map.1 hmem
    cases hv
  conv_rhs => rw [← List.take_append_drop vs.length above, List.countP_append, hzero, Nat.zero_add]

namespace TokenStack

theorem applyFunction_fenced (env : String → Option Float) (f : Callable)
    (hm : 0 < above.countP (·.isMarker)) :
    FencedStep (step env · (.function f)) above (above.countP (·.isMarker) - 1) := by
  by_cases hcap : Callable.capacity < f.minimum
  · refine .inl ⟨.capacityOverflow, fun below => ?_⟩
    simp only [step, applyFunction, collect_of_capacity hcap]
    rfl
  have hcap : f.minimum ≤ Callable.capacity := Nat.le_of_not_lt hcap
  by_cases hc : ∃ vs left, f.CalledOnTokens above vs left
  · obtain ⟨vs, left, group, rfl, hvs, ht⟩ := hc
    have hcollect (below : List Token) :
        collect f (group ++ .leftBracket :: left ++ .leftBracket :: below) =
          .ok (vs, left ++ .leftBracket :: below) :=
      collect_ok_iff.2 ⟨hcap, group, List.append_assoc .., hvs, ht⟩
    simp only [FencedStep, step, applyFunction, hcollect]
    cases f.call vs with
    | error e => exact .inl ⟨e, fun _ => rfl⟩
    | ok v =>
      refine .inr ⟨.ofValue v :: left, _, ?_, fun _ => rfl⟩
      rw [List.countP_append, hvs.unmarked]
      cases v <;> simp [Token.isMarker, Token.ofValue]
  · have hcollect (below : List Token) :
        collect f (above ++ .leftBracket :: below) = .error (.wrongArguments f.name) :=
      collect_uncalled hcap fun vs rest h => hc ⟨vs, calledOnTokens_above hm h⟩
    simp only [FencedStep, step, applyFunction, hcollect]
    exact .inl ⟨_, fun _ => rfl⟩

/-- The operator pops values that lie above the fence, or comes to the fence and fails. -/
theorem applyOperator_fenced (env : String → Option Float) (ho : o.OfNumbers)
    (above : List Token) :
    FencedStep (step env · (.operator o)) above (above.countP (·.isMarker)) := by
  have hview (below : List Token) : (above ++ .leftBracket :: below).map Token.operand =
      above.map Token.operand ++ .marker :: below.map Token.operand := List.map_append
  have hsome (below : List Token) : (above ++ .leftBracket :: below).isEmpty = false := by
    cases above <;> rfl
  have hfenced := ho.law Popping.law_fenced (above.map Token.operand) []
  obtain ⟨e, he⟩ | ⟨v, vs, left, popped, hvs, hv⟩ := hfenced
  · refine .inl ⟨e, fun below => ?_⟩
    obtain ⟨s, hs⟩ : ∃ s, o.execute
        ⟨above.map Token.operand ++ .marker :: below.map Token.operand, []⟩ = (.error e, s) :=
      ⟨_, Prod.ext (he _) rfl⟩
    simp only [step, applyOperator, hsome, hview, hs, Bool.false_eq_true, if_false]
  · have hlength : above.length = vs.length + left.length := by
      simpa using congrArg List.length hvs
    refine .inr ⟨.ofValue v :: above.drop vs.length, some ⟨o.symbol, popped, v⟩, ?_,
      fun below => ?_⟩
    · rw [← countP_drop_of_view hvs]
      cases v <;> rfl
    · have hn : (above ++ .leftBracket :: below).length -
          (left ++ .marker :: below.map Token.operand).length = vs.length := by
        simp only [List.length_append, List.length_cons, List.length_map]
        omega
      simp only [step, applyOperator, hsome, hview, hv, Bool.false_eq_true, if_false, hn,
        List.drop_append_of_le_length (show vs.length ≤ above.length by omega), List.cons_append]

theorem fencedStep_push {next : List Token → Except Error (List Token × Option Application)}
    {markers : Nat} (h : ∀ stack, next stack = .ok (t :: stack, none))
    (hm : (t :: above).countP (·.isMarker) = markers) : FencedStep next above markers :=
  .inr ⟨t :: above, none, hm, fun _ => h _⟩

theorem step_fenced (env : String → Option Float) (ho : ∀ o, t = .operator o → o.OfNumbers)
    (hf : [t].countP (·.isFunction) ≤ above.countP (·.isMarker)) :
    FencedStep (step env · t) above
      (above.countP (·.isMarker) + [t].countP (·.isMarker) - [t].countP (·.isFunction)) := by
  cases t with
  | operator o => exact applyOperator_fenced env (ho o rfl) above
  | function f => exact applyFunction_fenced env f hf
  | var name =>
    simp only [FencedStep, step]
    cases env name with
    | none => exact .inl ⟨_, fun _ => rfl⟩
    | some x => exact fencedStep_push (t := .number x) (fun _ => rfl) rfl
  | rightBracket => exact .inl ⟨_, fun _ => rfl⟩
  | comma => exact .inl ⟨_, fun _ => rfl⟩
  | leftBracket =>
    exact fencedStep_push (fun _ => rfl) (by simp [Token.isMarker, Token.isFunction])
  | _ => exact fencedStep_push (fun _ => rfl) rfl

/-- A run takes no more brackets than are above the fence and in the sequence. -/
theorem run_fencedStep (env : String → Option Float) (ho : ∀ o, .operator o ∈ q → o.OfNumbers)
    (hq : ∀ us, us <+: q →
      us.countP (·.isFunction) ≤ above.countP (·.isMarker) + us.countP (·.isMarker)) :
    Fenced .leftBracket (run env · q) above := by
  -- What is above the fence changes with each step, and the bound with it.
  induction q generalizing above with
  | nil => exact .inr ⟨above, [], fun _ => rfl⟩
  | cons t q ih =>
    have hcons (p : Token → Bool) (us : List Token) :
        (t :: us).countP p = [t].countP p + us.countP p := @List.countP_append _ p [t] us
    have ht : [t].countP (·.isFunction) ≤ above.countP (·.isMarker) := by
      have hone := hq [t] (List.cons_prefix_cons.2 ⟨rfl, List.nil_prefix⟩)
      cases t with
      | function f => exact hone
      | _ => exact Nat.zero_le _
    obtain ⟨e, he⟩ | ⟨left, application, hleft, hstep⟩ :=
      step_fenced env (fun o h => ho o (h ▸ List.mem_cons_self)) ht
    · refine .inl ⟨e, [], fun below => ?_⟩
      simp only [run, he]
    · have hrest : ∀ us, us <+: q →
          us.countP (·.isFunction) ≤ left.countP (·.isMarker) + us.countP (·.isMarker) := by
        intro us hus
        have hmore := hq (t :: us) (List.cons_prefix_cons.2 ⟨rfl, hus⟩)
        have hfunctions := hcons (·.isFunction) us
        have hmarkers := hcons (·.isMarker) us
        omega
      obtain ⟨e, applications, he⟩ | ⟨last, applications, hlast⟩ :=
        ih (fun o hm => ho o (List.mem_cons_of_mem t hm)) hrest
      · refine .inl ⟨e, application.toList ++ applications, fun below => ?_⟩
        simp only [run, hstep, he]
      · refine .inr ⟨last, application.toList ++ applications, fun below => ?_⟩
        simp only [run, hstep, hlast]

end TokenStack

/-- What is fenced on tokens is fenced on operands. -/
theorem Evaluation.run_fencedStep {env : String → Option Float}
    (ho : ∀ o, .operator o ∈ q → o.OfNumbers) (above : List Operand)
    (h : Fenced .leftBracket (TokenStack.run env · q) (above.map Operand.token)) :
    Fenced .marker (run env · q) above := by
  have hpops : ∀ o, .operator o ∈ q → Popping.OnlyPops o.execute :=
    fun o hm => (ho o hm).law Popping.law_onlyPops
  have hmap (below : List Operand) : (above ++ .marker :: below).map Operand.token =
      above.map Operand.token ++ .leftBracket :: below.map Operand.token := List.map_append
  obtain ⟨e, applications, he⟩ | ⟨left, applications, hleft⟩ := h
  · refine .inl ⟨e, applications, fun below => ?_⟩
    simp only [TokenStack.run_operands hpops, hmap, he]
    rfl
  · refine .inr ⟨left.map Token.operand, applications, fun below => ?_⟩
    simp only [TokenStack.run_operands hpops, hmap, hleft, Except.map, List.map_append,
      List.map_cons, TokenStack.map_operand_token]
    rfl

/-- Above a left bracket, or a marker, a sequence with operators on numbers and any functions is
evaluated in the same way whatever lies below. It fails with one error, or leaves one stack above
the bracket and all below as it was, and it has the same applications. -/
theorem run_fenced (ho : ∀ o, .operator o ∈ q → o.OfNumbers)
    (hq : ∀ us, us <+: q → us.countP (·.isFunction) ≤ us.countP (·.isMarker))
    (env : String → Option Float) :
    (∀ above, Fenced .leftBracket (TokenStack.run env · q) above) ∧
      ∀ above, Fenced .marker (Evaluation.run env · q) above := by
  have htokens (above : List Token) : Fenced .leftBracket (TokenStack.run env · q) above :=
    TokenStack.run_fencedStep env ho fun us hus => Nat.le_trans (hq us hus) (Nat.le_add_left ..)
  exact ⟨htokens, fun above => Evaluation.run_fencedStep ho above (htokens _)⟩

end

theorem run_fenced_sum : ∃ (f : Callable) (q : List Token),
    q = [.leftBracket, .var "x", .function f, .operator Builtin.plus] ∧
    (∀ o, .operator o ∈ q → o.OfNumbers) ∧
    (∀ us, us <+: q → us.countP (·.isFunction) ≤ us.countP (·.isMarker)) ∧
    ∃ applications, ∀ below,
      Evaluation.run (fun _ => some 1) (.value (.number 2) :: .marker :: below) q =
        (.ok (.value (.number (2 + 5)) :: .marker :: below), applications) := by
  let f : Callable := ⟨"f", 1, false, fun _ => .ok (.number 5)⟩
  let q : List Token := [.leftBracket, .var "x", .function f, .operator Builtin.plus]
  have ho : ∀ o, .operator o ∈ q → o.OfNumbers := by
    intro o hm
    obtain rfl : o = Builtin.plus := by simpa [q] using hm
    exact .binary _ _ _ _
  have hq : ∀ us, us <+: q → us.countP (·.isFunction) ≤ us.countP (·.isMarker) := by
    intro us hus
    obtain rfl | ⟨_, rfl, rfl | ⟨_, rfl, rfl | ⟨_, rfl, rfl | ⟨_, rfl, rfl⟩⟩⟩⟩ := by
      simpa [q, List.prefix_cons_iff] using hus
    all_goals simp [Token.isFunction, Token.isMarker]
  obtain ⟨applications, hsum⟩ : ∃ applications,
      Evaluation.run (fun _ => some 1) [.value (.number 2), .marker] q =
        (.ok ([.value (.number (2 + 5))] ++ [.marker]), applications) := ⟨_, rfl⟩
  refine ⟨f, q, rfl, ho, hq, ?_⟩
  obtain ⟨e, more, he⟩ | ⟨left, more, hleft⟩ :=
    (run_fenced ho hq fun _ => some 1).2 [.value (.number 2)]
  · cases (he []).symm.trans hsum
  · obtain ⟨hok, -⟩ := Prod.mk.inj ((hleft []).symm.trans hsum)
    obtain rfl := List.append_cancel_right (Except.ok.inj hok)
    exact ⟨more, hleft⟩

end Reckoner
