import Reckoner.Proofs.Doubles
import Reckoner.Proofs.Extension
import Reckoner.Proofs.RuleOrder

set_option autoImplicit false

namespace Reckoner

def Operator.key (o : Operator) : String × Int × Associativity :=
  (o.symbol, o.priority, o.associativity)

def Callable.key (f : Callable) : String × Nat × Bool := (f.name, f.minimum, f.variadic)

def Registration.operator? : Registration → Option Operator
  | operator _ _ o => some o
  | _ => none

/-- Brings an operator or a function. -/
def Registration.isCall : Registration → Bool
  | token _ _ _ => false
  | operator _ _ _ => true
  | function _ minimum _ _ => decide (-1 ≤ minimum)

/-- A token of a language with these registrations: operators and functions are among them, and
numbers have no sign. -/
def Token.Among (gs : List Registration) : Token → Prop
  | .number x => Number.Unsigned x
  | .operator o => o ∈ gs.filterMap Registration.operator?
  | .function f => f ∈ gs.filterMap Registration.callable?
  | _ => True

structure Registration.Distinct (gs : List Registration) : Prop where
  operators : ((gs.filterMap Registration.operator?).map Operator.key).Nodup
  functions : ((gs.filterMap Registration.callable?).map Callable.key).Nodup

def language (strict : Bool) : List Registration :=
  Builtin.operators strict ++ Builtin.functions ++ Comparison.registrations

/-- The default language, or what the comparisons make of it. -/
def Registry.Standard (c : Config) (r : Registry) : Prop :=
  r = .default c ∨ ∃ registered,
    (Registry.default c).registerAll Comparison.registrations = (.ok (), r, registered)

section

variable {gs hs : List Registration} {r : Registry}

theorem Operator.same_iff {a b : Operator} : a.same b = true ↔ a.key = b.key := by
  simp only [same, key, Bool.and_eq_true, beq_iff_eq, Prod.mk.injEq, and_assoc]

theorem Callable.same_iff {f g : Callable} : f.same g = true ↔ f.key = g.key := by
  simp only [same, key, Bool.and_eq_true, beq_iff_eq, Prod.mk.injEq, and_assoc]

namespace Token

theorem Among.same_iff (hd : Registration.Distinct gs) {s t : Token} (h : s.Among gs)
    (ht : t.Among gs) : s.same t = true ↔ s = t := by
  cases s with
  | number x =>
    cases t with
    | number y => exact (Number.Unsigned.beq_iff h ht).trans (number.injEq x y).to_iff.symm
    | _ => exact ⟨nofun, nofun⟩
  | operator a =>
    cases t with
    | operator b =>
      have hkey := List.inj_on_of_nodup_map hd.operators h ht
      simp only [same, Operator.same_iff, operator.injEq]
      exact ⟨@hkey, congrArg _⟩
    | _ => exact ⟨nofun, nofun⟩
  | function f =>
    cases t with
    | function g =>
      have hkey := List.inj_on_of_nodup_map hd.functions h ht
      simp only [same, Callable.same_iff, function.injEq]
      exact ⟨@hkey, congrArg _⟩
    | _ => exact ⟨nofun, nofun⟩
  | _ => cases t <;> simp [same]

theorem beq_iff_of_among (hd : Registration.Distinct gs) {ts us : List Token}
    (ht : ∀ t ∈ ts, t.Among gs) (hu : ∀ u ∈ us, u.Among gs) : (ts == us) = true ↔ ts = us := by
  induction ts generalizing us with
  | nil => cases us <;> simp
  | cons t ts ih =>
    cases us with
    | nil => simp
    | cons u us =>
      obtain ⟨hthead, httail⟩ := List.forall_mem_cons.1 ht
      obtain ⟨huhead, hutail⟩ := List.forall_mem_cons.1 hu
      have hhead : (t == u) = true ↔ t = u := hthead.same_iff hd huhead
      rw [List.cons_beq_cons, Bool.and_eq_true, hhead, ih httail hutail, List.cons.injEq]

end Token

namespace Registry

theorem yields_basic (gs : List Registration) (sigil : Char) :
    (basic sigil).Yields (Token.Among gs) := by
  refine ⟨fun x hx l preceding t _ ht => ?_, fun _ _ h => nomatch h⟩
  simp only [basic, List.mem_cons, List.not_mem_nil, or_false] at hx
  rcases hx with rfl | rfl | rfl | rfl | rfl | rfl
  · simp only [buildNumber] at ht
    cases hn : Number.read? l.toList with
    | none => rw [hn] at ht; cases ht
    | some x =>
      rw [hn] at ht
      cases ht
      exact Number.unsigned_read? hn
  all_goals
    cases ht
    trivial

theorem Yields.insertAll (h : r.Yields (Token.Among gs)) (hsub : hs ⊆ gs)
    (hcalls : ∀ g ∈ hs, g.isCall = true) : (r.insertAll hs).Yields (Token.Among gs) := by
  refine All.insertAll h fun g hg => ?_
  have hcall := hcalls g hg
  cases g with
  | token name matcher build => cases hcall
  | operator name matcher o =>
    rintro l preceding t - ht
    cases ht
    exact List.mem_filterMap.2 ⟨_, hsub hg, rfl⟩
  | function name minimum variadic call =>
    exact List.mem_filterMap.2
      ⟨_, hsub hg, callable?_function (of_decide_eq_true hcall) name variadic call⟩

end Registry

theorem distinct_language (strict : Bool) : Registration.Distinct (language strict) := by
  cases strict <;> exact ⟨by decide, by decide⟩

theorem isCall_language (strict : Bool) : ∀ g ∈ language strict, g.isCall = true := by
  cases strict <;> decide

theorem yields_default (c : Config) :
    (Registry.default c).Yields (Token.Among (language c.strictDivision)) :=
  (Registry.yields_basic _ _).insertAll (List.subset_append_left _ _)
    fun g hg => isCall_language c.strictDivision g (List.mem_append_left _ hg)

theorem yields_extended (c : Config) :
    (Registry.extended c).Yields (Token.Among (language c.strictDivision)) :=
  (yields_default c).insertAll (List.subset_append_right _ _)
    fun g hg => isCall_language c.strictDivision g (List.mem_append_right _ hg)

theorem Registry.Standard.yields {c : Config} (h : r.Standard c) :
    r.Yields (Token.Among (language c.strictDivision)) := by
  rcases h with rfl | ⟨registered, h⟩
  · exact yields_default c
  · have hfrozen : (Registry.default c).frozen = false := insertAll_frozen _ _
    rw [registerAll_checked hfrozen Comparison.check_registrations] at h
    obtain rfl : extended c = r := congrArg (fun answer => answer.2.1) h
    exact yields_extended c

namespace Expression

variable {c : Config} {r₁ r₂ : Registry} {depth₁ depth₂ : Nat} {s₁ s₂ : String}
  {e₁ e₂ : Expression}

theorem same_iff (h₁ : r₁.Standard c) (h₂ : r₂.Standard c) (he₁ : compile r₁ depth₁ s₁ = .ok e₁)
    (he₂ : compile r₂ depth₂ s₂ = .ok e₂) : e₁.same e₂ = true ↔ e₁ = e₂ := by
  have htokens : e₁.tokens = e₂.tokens ↔ e₁ = e₂ := by
    cases e₁
    cases e₂
    exact (mk.injEq _ _).to_iff.symm
  rw [same, ← htokens]
  exact Token.beq_iff_of_among (distinct_language c.strictDivision)
    (h₁.yields.compile trivial he₁) (h₂.yields.compile trivial he₂)

/-- An expression is equal to itself, and equal expressions have the same value, or error, and the
same applications on the way to it, whatever the variables are. -/
theorem same_run (h₁ : r₁.Standard c) (h₂ : r₂.Standard c) (he₁ : compile r₁ depth₁ s₁ = .ok e₁)
    (he₂ : compile r₂ depth₂ s₂ = .ok e₂) :
    e₁.same e₁ = true ∧ (e₁.same e₂ = true → ∀ bound, e₁.run bound = e₂.run bound) := by
  refine ⟨(same_iff h₁ h₁ he₁ he₁).2 rfl, fun hsame bound => ?_⟩
  rw [(same_iff h₁ h₂ he₁ he₂).1 hsame]

theorem same_run_minus : ∃ extended e₁ e₂,
    (Registry.default {}).Standard {} ∧ extended.Standard {} ∧
    compile (.default {}) 9 "$y--$x" = .ok e₁ ∧ compile extended 9 "$y - -$x" = .ok e₂ ∧
    e₁.same e₁ = true ∧ e₁.same e₂ = true ∧ ∀ bound, e₁.run bound = e₂.run bound := by
  have hdefault : (Registry.default {}).Standard {} := .inl rfl
  have hfrozen : (Registry.default {}).frozen = false := Registry.insertAll_frozen _ _
  have hextended : (Registry.extended {}).Standard {} :=
    .inr ⟨_, Registry.registerAll_checked hfrozen Comparison.check_registrations⟩
  have hc : ({} : Config).validate = .ok () := by decide
  have hs : Sigil ({} : Config).sigil := Config.sigil_of_validate hc
  have hvar (name : String) (h : Text.isIdentifier name.toList = true) (preceding : List Token) :
      (Registry.default {}).resolve (.ofList ('$' :: name.toList)) preceding false =
        .ok (.var name) := resolve_reference hs h
  have hlexemes : (Registry.default {}).lexemes "$y--$x" = .ok ["$y", "-", "-", "$x"] := by
    rw [lexemes_default,
      scan_cons rfl rfl (scan_cons rfl rfl (scan_cons rfl rfl (scan_cons rfl rfl (scan_nil rfl))))]
    rfl
  have hspaced : (Registry.default {}).lexemes "$y - -$x" = .ok ["$y", "-", "-", "$x"] := by
    rw [lexemes_default,
      scan_cons rfl rfl (scan_cons rfl rfl (scan_cons rfl rfl (scan_cons rfl rfl (scan_nil rfl))))]
    rfl
  have htokens : (Registry.default {}).resolveAll [] ["$y", "-", "-", "$x"] =
      .ok [.var "y", .operator Builtin.minus, .operator Builtin.negation, .var "x"] :=
    resolveAll_cons (hvar "y" rfl _) <| resolveAll_cons (resolve_sign .minus) <|
      resolveAll_cons (resolve_sign .minus) <| resolveAll_cons (hvar "x" rfl _) rfl
  let e : Expression :=
    ⟨[.var "y", .var "x", .operator Builtin.negation, .operator Builtin.minus]⟩
  have he₁ : compile (.default {}) 9 "$y--$x" = .ok e := by
    simp only [compile, Registry.tokens, hlexemes, htokens]
    rfl
  have he₂ : compile (.extended {}) 9 "$y - -$x" = .ok e := by
    refine compile_extended hs ?_
    simp only [compile, Registry.tokens, hspaced, htokens]
    rfl
  obtain ⟨hself, hrun⟩ := same_run hdefault hextended he₁ he₂
  exact ⟨_, e, e, hdefault, hextended, he₁, he₂, hself, hself, hrun hself⟩

end Expression

end

end Reckoner
