import Mathlib.Tactic.Tauto
import Reckoner.Proofs.Registration

/-! What a registry holds after any registrations, of which some may be refused. The names of its
rules are distinct: operators stand in front, the last introduced first, and other rules at the
end. Each rule and each function is the one that was registered last under its name.
-/

set_option autoImplicit false

namespace Reckoner

namespace Registration

def rule? : Registration → Option Rule
  | token name matcher build => some ⟨name, matcher, build⟩
  | operator name matcher o => some ⟨name, matcher, fun _ => .ok (.operator o)⟩
  | function _ _ _ _ => none

def callable? : Registration → Option Callable
  | function name minimum variadic call =>
    some (if minimum = -1 then ⟨name, 0, true, call⟩ else ⟨name, minimum.toNat, variadic, call⟩)
  | _ => none

def inFront : Registration → Bool
  | operator _ _ _ => true
  | _ => false

end Registration

/-- The last registration under its name gives `x`. -/
def Newest {α : Type} (gives : Registration → Option α) (name : α → String)
    (gs : List Registration) (x : α) : Prop :=
  ∃ before g after, gs = before ++ g :: after ∧ gives g = some x ∧
    ∀ h ∈ after, ∀ y, gives h = some y → name y ≠ name x

def introductions (known : List String) : List Registration → List Registration
  | [] => []
  | g :: gs =>
    match g.rule? with
    | none => introductions known gs
    | some rule =>
      if rule.name ∈ known then introductions known gs
      else g :: introductions (rule.name :: known) gs

def introduced (inFront : Bool) (known : List String) (gs : List Registration) : List String :=
  ((introductions known gs).filter (·.inFront == inFront)).filterMap fun g =>
    g.rule?.map (·.name)

namespace Registry

def attemptAll (r : Registry) : List Registration → Registry × List Registration
  | [] => (r, [])
  | g :: gs =>
    match r.register g with
    | .error _ => r.attemptAll gs
    | .ok r =>
      let (r, taken) := r.attemptAll gs
      (r, g :: taken)

structure WellFormed (r : Registry) : Prop where
  distinct : r.ruleNames.Nodup
  named : ∀ rule ∈ r.rules, rule.name ≠ ""
  literals : ∀ rule ∈ r.rules, ∀ s, rule.matcher = .literal s →
    s ≠ "" ∧ ∀ c ∈ s.toList, Text.isBlank c = false
  keys : ∀ entry ∈ r.functions.entries,
    Text.isIdentifier entry.1.toList = true ∧ entry.2.name = entry.1

/-- A registry after registrations on one without functions, of which these were not refused. -/
structure Represents (start : Registry) (taken : List Registration) (r : Registry) : Prop
    extends r.WellFormed where
  order : r.ruleNames = (introduced true start.ruleNames taken).reverse ++ start.ruleNames ++
    introduced false start.ruleNames taken
  rules : ∀ rule, rule ∈ r.rules ↔
    Newest Registration.rule? (·.name) taken rule ∨
      rule ∈ start.rules ∧ ∀ g ∈ taken, ∀ other, g.rule? = some other → other.name ≠ rule.name
  functions : ∀ name f, r.function? name = some f ↔
    f.name = name ∧ Newest Registration.callable? (·.name) taken f

end Registry

section

variable {r start : Registry} {g : Registration} {gs : List Registration} {rule : Rule}
  {rules : List Rule} {name : String} {known : List String} {inFront : Bool}

theorem newest_cons {α : Type} {gives : Registration → Option α} {nameOf : α → String} {x : α} :
    Newest gives nameOf (g :: gs) x ↔
      gives g = some x ∧ (∀ h ∈ gs, ∀ y, gives h = some y → nameOf y ≠ nameOf x) ∨
        Newest gives nameOf gs x := by
  constructor
  · rintro ⟨before, h, after, hgs, hx, hafter⟩
    cases before with
    | nil =>
      cases hgs
      exact .inl ⟨hx, hafter⟩
    | cons _ before =>
      cases hgs
      exact .inr ⟨before, h, after, rfl, hx, hafter⟩
  · rintro (⟨hx, hafter⟩ | ⟨before, h, after, rfl, hx, hafter⟩)
    · exact ⟨[], g, gs, rfl, hx, hafter⟩
    · exact ⟨g :: before, h, after, rfl, hx, hafter⟩

theorem not_newest_nil {α : Type} {gives : Registration → Option α} {nameOf : α → String} {x : α} :
    ¬ Newest gives nameOf [] x := by
  rintro ⟨before, h, after, hgs, -⟩
  simp at hgs

theorem callable?_function {minimum : Int} (h : -1 ≤ minimum) (name : String) (variadic : Bool)
    (call : List Value → Except Error Value) :
    (Registration.function name minimum variadic call).callable? =
      some (callable name minimum variadic call) := by
  simp only [Registration.callable?, callable]
  split_ifs with hm
  · simp [hm]
  · simp [show ¬ minimum < 0 by omega]

theorem insert_cases (r : Registry) (hg : g.check = .ok ()) :
    (∃ rule, g.rule? = some rule ∧ g.callable? = none ∧
      checkRule rule.name rule.matcher = .ok () ∧
      r.insert g = { r with rules := place g.inFront rule r.rules }) ∨
    ∃ f, g.rule? = none ∧ g.callable? = some f ∧ Text.isIdentifier f.name.toList = true ∧
      r.insert g = { r with functions := r.functions.set f.name f } := by
  cases g with
  | token name matcher build => exact .inl ⟨_, rfl, rfl, hg, rfl⟩
  | operator name matcher o => exact .inl ⟨_, rfl, rfl, hg, rfl⟩
  | function name minimum variadic call =>
    simp only [Registration.check, checkFunction] at hg
    split_ifs at hg with hname hminimum
    exact .inr ⟨callable name minimum variadic call, rfl,
      callable?_function (by omega) name variadic call, hname, rfl⟩

theorem checkRule_ok {matcher : Matcher} (h : checkRule name matcher = .ok ()) :
    name ≠ "" ∧ ∀ s, matcher = .literal s → s ≠ "" ∧ ∀ c ∈ s.toList, Text.isBlank c = false := by
  simp only [checkRule] at h
  split_ifs at h with hname
  refine ⟨hname, ?_⟩
  rintro s rfl
  simp only [ite_eq_right_iff, reduceCtorEq, imp_false, not_or, List.any_eq_true, not_exists,
    not_and, Bool.not_eq_true] at h
  exact h

namespace Registry

theorem WellFormed.insert (h : r.WellFormed) (hg : g.check = .ok ()) : (r.insert g).WellFormed := by
  obtain ⟨rule, -, -, hrule, hinsert⟩ | ⟨f, -, -, hf, hinsert⟩ := insert_cases r hg
  · obtain ⟨hname, hliteral⟩ := checkRule_ok hrule
    rw [hinsert]
    refine ⟨?_, fun x hx => ?_, fun x hx => ?_, h.keys⟩
    · have hd : (r.rules.map (·.name)).Nodup := h.distinct
      rw [ruleNames, names_place]
      split_ifs with hknown hfront
      · exact hd
      · exact List.nodup_cons.2 ⟨hknown, hd⟩
      · exact List.nodup_append_comm.1 (List.nodup_cons.2 ⟨hknown, hd⟩)
    · obtain rfl | ⟨hx, -⟩ := mem_place.1 hx
      · exact hname
      · exact h.named x hx
    · obtain rfl | ⟨hx, -⟩ := mem_place.1 hx
      · exact hliteral
      · exact h.literals x hx
  · rw [hinsert]
    refine ⟨h.distinct, h.named, h.literals, fun entry hm => ?_⟩
    obtain rfl | hm := Bindings.mem_put hm
    · exact ⟨hf, rfl⟩
    · exact h.keys entry hm

theorem WellFormed.insertAll (h : r.WellFormed) (hg : ∀ g ∈ gs, g.check = .ok ()) :
    (r.insertAll gs).WellFormed := by
  induction gs generalizing r with
  | nil => exact h
  | cons g gs ih =>
    obtain ⟨hhead, htail⟩ := List.forall_mem_cons.1 hg
    exact ih (h.insert hhead) htail

theorem attemptAll_eq (r : Registry) (gs : List Registration) :
    (r.attemptAll gs).1 = r.insertAll (r.attemptAll gs).2 ∧
      ∀ g ∈ (r.attemptAll gs).2, g.check = .ok () := by
  induction gs generalizing r with
  | nil => exact ⟨rfl, List.forall_mem_nil _⟩
  | cons g gs ih =>
    simp only [attemptAll]
    cases h : r.register g with
    | error e => exact ih r
    | ok r' =>
      obtain ⟨hcheck, rfl⟩ := register_ok h
      obtain ⟨hinsert, hchecks⟩ := ih (r.insert g)
      exact ⟨hinsert, List.forall_mem_cons.2 ⟨hcheck, hchecks⟩⟩

theorem rules_insertAll (hg : ∀ g ∈ gs, g.check = .ok ()) (rule : Rule) :
    rule ∈ (r.insertAll gs).rules ↔ Newest Registration.rule? (·.name) gs rule ∨
      rule ∈ r.rules ∧ ∀ g ∈ gs, ∀ other, g.rule? = some other → other.name ≠ rule.name := by
  induction gs generalizing r with
  | nil => simp [Registry.insertAll, not_newest_nil]
  | cons g gs ih =>
    obtain ⟨hhead, htail⟩ := List.forall_mem_cons.1 hg
    rw [insertAll_cons, ih htail, newest_cons,
      List.forall_mem_cons]
    obtain ⟨new, hrule, -, -, hinsert⟩ | ⟨f, hrule, -, -, hinsert⟩ := insert_cases r hhead
    · simp only [hinsert, mem_place, hrule, Option.some.injEq, forall_eq', eq_comm (b := new),
        ne_comm (b := new.name)]
      tauto
    · simp [hinsert, hrule]

theorem function?_insertAll (hg : ∀ g ∈ gs, g.check = .ok ()) (f : Callable) :
    (r.insertAll gs).function? name = some f ↔
      (f.name = name ∧ Newest Registration.callable? (·.name) gs f) ∨
        r.function? name = some f ∧
          ∀ g ∈ gs, ∀ other, g.callable? = some other → other.name ≠ name := by
  induction gs generalizing r with
  | nil => simp [Registry.insertAll, not_newest_nil]
  | cons g gs ih =>
    obtain ⟨hhead, htail⟩ := List.forall_mem_cons.1 hg
    rw [insertAll_cons, ih htail, newest_cons,
      List.forall_mem_cons]
    obtain ⟨rule, -, hcallable, -, hinsert⟩ | ⟨new, -, hcallable, -, hinsert⟩ :=
      insert_cases r hhead
    · simp [hinsert, hcallable, function?]
    · have hget : (r.insert g).function? name =
          if new.name = name then some new else r.function? name := by
        rw [hinsert, function?, Bindings.get?_set, function?]
      simp only [hget, hcallable, Option.some.injEq, forall_eq']
      by_cases hname : new.name = name
      · subst hname
        rw [if_pos rfl, Option.some.injEq]
        constructor
        · rintro (⟨hf, hnewest⟩ | ⟨rfl, hlast⟩)
          · exact .inl ⟨hf, .inr hnewest⟩
          · exact .inl ⟨rfl, .inl ⟨rfl, hlast⟩⟩
        · rintro (⟨hf, ⟨rfl, hlast⟩ | hnewest⟩ | ⟨-, hne, -⟩)
          · exact .inr ⟨rfl, hlast⟩
          · exact .inl ⟨hf, hnewest⟩
          · exact absurd rfl hne
      · have hother (hf : f.name = name) : new ≠ f := by
          rintro rfl
          exact hname hf
        rw [if_neg hname]
        tauto

theorem introductions_congr {known' : List String} (h : ∀ s, s ∈ known ↔ s ∈ known')
    (gs : List Registration) : introductions known gs = introductions known' gs := by
  induction gs generalizing known known' with
  | nil => rfl
  | cons g gs ih =>
    have hcons (name : String) : ∀ s, s ∈ name :: known ↔ s ∈ name :: known' := by simp [h]
    cases hrule : g.rule? with
    | none => simp only [introductions, hrule, ih h]
    | some rule => simp only [introductions, hrule, h, ih h, ih (hcons rule.name)]

theorem ruleNames_insertAll (hg : ∀ g ∈ gs, g.check = .ok ()) : (r.insertAll gs).ruleNames =
    (introduced true r.ruleNames gs).reverse ++ r.ruleNames ++ introduced false r.ruleNames gs := by
  induction gs generalizing r with
  | nil => simp [Registry.insertAll, introduced, introductions]
  | cons g gs ih =>
    obtain ⟨hhead, htail⟩ := List.forall_mem_cons.1 hg
    rw [insertAll_cons, ih htail]
    obtain ⟨rule, hrule, -, -, hinsert⟩ | ⟨f, hrule, -, -, hinsert⟩ := insert_cases r hhead
    · have hnames : (r.insert g).ruleNames = if rule.name ∈ r.ruleNames then r.ruleNames
          else if g.inFront then rule.name :: r.ruleNames else r.ruleNames ++ [rule.name] := by
        rw [hinsert, ruleNames, names_place, ruleNames]
      by_cases hknown : rule.name ∈ r.ruleNames
      · rw [hnames, if_pos hknown]
        simp only [introduced, introductions, hrule, if_pos hknown]
      · rw [if_neg hknown] at hnames
        cases hfront : g.inFront with
        | true => simp [introduced, introductions, hrule, hknown, hnames, hfront]
        | false =>
          have hlater : introductions (r.ruleNames ++ [rule.name]) gs =
              introductions (rule.name :: r.ruleNames) gs :=
            introductions_congr (by simp [or_comm]) gs
          simp [introduced, introductions, hrule, hknown, hnames, hlater, hfront]
    · have hnames : (r.insert g).ruleNames = r.ruleNames := by rw [hinsert, ruleNames, ruleNames]
      simp only [hnames, introduced, introductions, hrule]

theorem represents_attemptAll (h : start.WellFormed) (hf : start.functions = {})
    (gs : List Registration) :
    Represents start (start.attemptAll gs).2 (start.attemptAll gs).1 := by
  obtain ⟨hinsert, hg⟩ := attemptAll_eq start gs
  rw [hinsert]
  have hnone (name : String) : start.function? name = none := by rw [function?, hf]; rfl
  refine ⟨h.insertAll hg, ruleNames_insertAll hg, rules_insertAll hg, fun name f => ?_⟩
  simp [function?_insertAll hg, hnone]

/-- What a registry holds after any registrations on one with the basic rules, or on one without
any rule. -/
theorem attemptAll_represents (sigil : Char) (gs : List Registration) :
    Represents (basic sigil) ((basic sigil).attemptAll gs).2 ((basic sigil).attemptAll gs).1 ∧
      Represents (bare sigil) ((bare sigil).attemptAll gs).2 ((bare sigil).attemptAll gs).1 := by
  have hbasic : (basic sigil).WellFormed := by
    refine ⟨?_, ?_, ?_, List.forall_mem_nil _⟩
    · simp [basic, ruleNames]
    · simp [basic]
    · have hmarks : Text.isBlank '(' = false ∧ Text.isBlank ')' = false ∧
          Text.isBlank ',' = false := by decide
      simp [basic, hmarks]
  have hbare : (bare sigil).WellFormed :=
    ⟨List.nodup_nil, List.forall_mem_nil _, List.forall_mem_nil _, List.forall_mem_nil _⟩
  exact ⟨represents_attemptAll hbasic rfl gs, represents_attemptAll hbare rfl gs⟩

/-- A name keeps its place, whatever registers it again. -/
example (m n : Operator) (build : String → Except Error Token) :
    ((bare '$').attemptAll [.token "t" .quoted build, .operator "m" (.literal "m") m,
      .operator "n" (.literal " ") n, .operator "n" (.literal "n") n,
      .operator "t" (.literal "t") n, .token "m" .numeral build]).1.ruleNames = ["n", "m", "t"] := by
  rfl

end Registry

end

end Reckoner
