import Reckoner.Comparison
import Reckoner.Proofs.Denotation
import Reckoner.Proofs.Tables

set_option autoImplicit false

namespace Reckoner

/-- The computation never reports a division by zero. -/
def Popping.Safe {α : Type} (p : Popping α) : Prop := ∀ s, (p s).1 ≠ .error .divisionByZero

theorem Popping.law_safe : Law (· ≠ .divisionByZero) @Safe where
  pure _ := fun _ => nofun
  throw he := fun _ h => he (Except.error.inj h)
  popValue owner := by rintro ⟨_ | ⟨v | _, items⟩, popped⟩ <;> nofun
  bind {_ _ p f} hp hf := by
    intro s
    have hs := hp s
    cases h : p s with
    | mk answer s' =>
      rw [h] at hs
      cases answer with
      | ok a =>
        rw [popping_bind h]
        exact hf a s'
      | error e =>
        rw [popping_bind_error h]
        exact fun he => hs (congrArg Except.error (Except.error.inj he))

namespace Comparison

theorem check_ne (owner : String) (c : Condition) (left right : Value) :
    check owner c left right ≠ .error .divisionByZero := by
  simp only [check]
  cases order? left right <;> nofun

theorem safe_operator (c : Condition) : Popping.Safe c.operator.execute := by
  have hlaw := Popping.law_safe
  refine hlaw.bind (hlaw.popValue _) fun y => hlaw.bind (hlaw.popValue _) fun x => ?_
  have hxy := check_ne c.symbol c x y
  cases h : check c.symbol c x y with
  | ok v => exact hlaw.pure v
  | error e =>
    rw [h] at hxy
    exact hlaw.throw fun he => hxy (congrArg Except.error he)

theorem compare_ne (args : List Value) : compare args ≠ .error .divisionByZero := by
  unfold compare
  split
  · split <;> nofun
  · split
    · exact check_ne _ _ _ _
    · nofun
  · nofun

theorem choose_ne (args : List Value) : choose args ≠ .error .divisionByZero := by
  unfold choose
  split <;> nofun

end Comparison

namespace Builtin

theorem callUnary_ne (owner : String) (f : Float → Float) (args : List Value) :
    callUnary owner f args ≠ .error .divisionByZero := by
  rcases args with _ | ⟨x | s, vs⟩ <;> nofun

theorem foldFrom_ne (owner : String) (f : Float → Float → Float) (x : Float) (vs : List Value) :
    foldFrom owner f x vs ≠ .error .divisionByZero := by
  induction vs generalizing x with
  | nil => nofun
  | cons v vs ih =>
    cases v with
    | number y => exact ih (f x y)
    | text s => nofun

theorem foldNumbers_ne (owner : String) (f : Float → Float → Float) (vs : List Value) :
    foldNumbers owner f vs ≠ .error .divisionByZero := by
  rcases vs with _ | ⟨x | s, vs⟩
  · nofun
  · exact foldFrom_ne owner f x vs
  · nofun

theorem map_number_ne {x : Except Error Float} {f : Float → Value}
    (h : x ≠ .error .divisionByZero) : x.map f ≠ .error .divisionByZero := by
  cases x with
  | ok y => nofun
  | error e => exact fun he => h (congrArg Except.error (Except.error.inj he))

end Builtin

/-- The division of a zero divisor is not strict any more. Other operators are left alone. -/
def lenience : Renaming where
  operator o :=
    { o with execute := if o.symbol = "/" then (Builtin.quotient false).execute else o.execute }

theorem lenience_operator {o : Operator} (h : o.symbol ≠ "/") : lenience.operator o = o := by
  simp only [lenience, if_neg h]

/-- The token is the strict division, or never reports a division by zero and is not named so. -/
def Token.Tame : Token → Prop
  | .operator o => o = Builtin.quotient true ∨ o.symbol ≠ "/" ∧ Popping.Safe o.execute
  | .function f => f.name ≠ "/" ∧ ∀ args, f.call args ≠ .error .divisionByZero
  | _ => True

/-- The rule builds tame tokens, does not tell the two divisions apart and reports none. -/
structure Rule.Tame (x : Rule) : Prop where
  overlooks : lenience.Overlooks x.matcher
  safe : ∀ l, x.build l ≠ .error .divisionByZero
  builds : ∀ l t, x.build l = .ok t → t.Tame

abbrev Registry.Tame (r : Registry) : Prop := r.All Rule.Tame fun f => (Token.function f).Tame

abbrev Registration.Tame (g : Registration) : Prop :=
  g.All Rule.Tame fun f => (Token.function f).Tame

theorem tame_operator {name : String} {m : Matcher} {o : Operator} (hm : lenience.Overlooks m)
    (ho : (Token.operator o).Tame) : (Registration.operator name m o).Tame := by
  refine ⟨hm, fun _ => nofun, fun _ t ht => ?_⟩
  cases ht
  exact ho

theorem overlooks_isNegation : lenience.Overlooks (.context Builtin.isNegation) := by
  intro l preceding
  simp only [Matcher.accepts, Builtin.isNegation, Renaming.startsExpression_map]

theorem tame_basic (sigil : Char) : (Registry.basic sigil).Tame := by
  refine ⟨fun x hx => ?_, fun _ _ h => nomatch h⟩
  simp only [Registry.basic, List.mem_cons, List.not_mem_nil, or_false] at hx
  rcases hx with rfl | rfl | rfl | rfl | rfl | rfl
  · refine ⟨fun _ _ => rfl, fun l => ?_, fun l t ht => ?_⟩
    · simp only [Registry.buildNumber]
      cases Number.read? l.toList <;> nofun
    · simp only [Registry.buildNumber] at ht
      cases hn : Number.read? l.toList with
      | none => rw [hn] at ht; cases ht
      | some x =>
        rw [hn] at ht
        cases ht
        trivial
  all_goals
    refine ⟨fun _ _ => rfl, fun _ => nofun, fun l t ht => ?_⟩
    cases ht
    trivial

theorem tame_operators : ∀ g ∈ Builtin.operators true, g.Tame := by
  have hbinary {name symbol : String} {m : Matcher} {priority : Int}
      {associativity : Associativity} (f : Float → Float → Float) (hm : lenience.Overlooks m)
      (hs : symbol ≠ "/") : (Registration.operator name m
        (.binary symbol priority associativity fun x y => .ok (f x y))).Tame :=
    tame_operator hm (.inr ⟨hs, Popping.law_safe.binary (fun _ => nofun) (fun _ _ _ h => by cases h)
      symbol priority associativity⟩)
  have hnegation : (Token.operator Builtin.negation).Tame :=
    .inr ⟨by decide, Popping.law_safe.unary (fun _ => nofun) (fun _ _ h => by cases h) _ _ _⟩
  simp only [Builtin.operators, List.forall_mem_cons]
  exact ⟨hbinary (· + ·) (fun _ _ => rfl) (by decide), hbinary (· - ·) (fun _ _ => rfl) (by decide),
    hbinary (· * ·) (fun _ _ => rfl) (by decide), tame_operator (fun _ _ => rfl) (.inl rfl),
    hbinary Float.pow (fun _ _ => rfl) (by decide), tame_operator overlooks_isNegation hnegation,
    List.forall_mem_nil _⟩

theorem tame_functions : ∀ g ∈ Builtin.functions, g.Tame := by
  have hfold (f : Float → Float → Float) (owner : String) (args : List Value) :
      Builtin.callFold owner f args ≠ .error .divisionByZero :=
    Builtin.map_number_ne (Builtin.foldNumbers_ne owner f args)
  have hunary : ∀ e ∈ Builtin.unaryFunctions,
      (Registration.function e.1 1 false (Builtin.callUnary e.1 e.2)).Tame := by
    simp only [Builtin.unaryFunctions, List.forall_mem_cons]
    exact ⟨⟨by decide, Builtin.callUnary_ne _ _⟩, ⟨by decide, Builtin.callUnary_ne _ _⟩,
      ⟨by decide, Builtin.callUnary_ne _ _⟩, ⟨by decide, Builtin.callUnary_ne _ _⟩,
      ⟨by decide, Builtin.callUnary_ne _ _⟩, ⟨by decide, Builtin.callUnary_ne _ _⟩,
      List.forall_mem_nil _⟩
  simp only [Builtin.functions, List.forall_mem_append, List.forall_mem_map, List.forall_mem_cons]
  exact ⟨hunary, ⟨by decide, hfold _ _⟩, ⟨by decide, hfold _ _⟩,
    ⟨by decide, fun args => Builtin.map_number_ne (Builtin.foldNumbers_ne "avg" (· + ·) args)⟩,
    List.forall_mem_nil _⟩

theorem tame_comparisons : ∀ g ∈ Comparison.registrations, g.Tame := by
  have hoperator (c : Comparison.Condition) :
      (Registration.operator c.name (.literal c.symbol) c.operator).Tame :=
    tame_operator (fun _ _ => rfl)
      (.inr ⟨by cases c <;> decide, Comparison.safe_operator c⟩)
  simp only [Comparison.registrations, List.forall_mem_append, List.forall_mem_map,
    List.forall_mem_cons]
  exact ⟨fun c _ => hoperator c, ⟨by decide, Comparison.compare_ne⟩,
    ⟨by decide, Comparison.choose_ne⟩, List.forall_mem_nil _⟩

end Reckoner
