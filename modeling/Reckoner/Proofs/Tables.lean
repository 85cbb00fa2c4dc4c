import Mathlib.Data.List.Find
import Reckoner.Proofs.Registration
import Reckoner.Proofs.Renaming

/-! Tables of rules and functions. What holds of each registration holds of all that is in a
registry, and of the tokens that it reads. A registry whose rules build renamed tokens reads each
text as the first does, with its tokens renamed, if no rule looks at what the renaming changes.
-/

set_option autoImplicit false

namespace Reckoner

/-- All that a registry holds. -/
structure Registry.All (Q : Rule → Prop) (F : Callable → Prop) (r : Registry) : Prop where
  rules : ∀ rule ∈ r.rules, Q rule
  functions : ∀ name f, r.function? name = some f → F f

def Registration.All (Q : Rule → Prop) (F : Callable → Prop) : Registration → Prop
  | .token name matcher build => Q ⟨name, matcher, build⟩
  | .operator name matcher o => Q ⟨name, matcher, fun _ => .ok (.operator o)⟩
  | .function name minimum variadic call => F (callable name minimum variadic call)

namespace Registry

section

variable {Q : Rule → Prop} {F : Callable → Prop} {r : Registry}

theorem All.insert (h : r.All Q F) {g : Registration} (hg : g.All Q F) :
    (r.insert g).All Q F := by
  have hrules {inFront : Bool} {rule : Rule} (hrule : Q rule) :
      ∀ x ∈ place inFront rule r.rules, Q x := by
    intro x hx
    rcases mem_place.1 hx with rfl | ⟨hx, -⟩
    · exact hrule
    · exact h.rules x hx
  cases g with
  | token name matcher build => exact ⟨hrules hg, h.functions⟩
  | operator name matcher o => exact ⟨hrules hg, h.functions⟩
  | function name minimum variadic call =>
    refine ⟨h.rules, fun other f hf => ?_⟩
    simp only [function?, Registry.insert, Bindings.get?_set] at hf
    split at hf
    · cases hf
      exact hg
    · exact h.functions other f hf

theorem All.insertAll (h : r.All Q F) {gs : List Registration} (hg : ∀ g ∈ gs, g.All Q F) :
    (r.insertAll gs).All Q F := by
  induction gs generalizing r with
  | nil => exact h
  | cons g gs ih =>
    obtain ⟨hhead, htail⟩ := List.forall_mem_cons.1 hg
    exact ih (h.insert hhead) htail

end

/-- All tokens that the rules build of what they accept, and the functions. -/
abbrev Yields (P : Token → Prop) (r : Registry) : Prop :=
  r.All (fun x => ∀ l preceding t, x.matcher.accepts l preceding = true → x.build l = .ok t → P t)
    fun f => P (.function f)

section

variable {P : Token → Prop} {r : Registry}

theorem Yields.resolveFunction (h : r.Yields P) {name : String} {t : Token}
    (ht : r.resolveFunction name = .ok t) : P t := by
  simp only [Registry.resolveFunction] at ht
  cases hf : r.function? name with
  | none => rw [hf] at ht; cases ht
  | some f =>
    rw [hf] at ht
    cases ht
    exact h.functions name f hf

theorem Yields.resolve (h : r.Yields P) {l : String} {preceding : List Token} {called : Bool}
    {t : Token} (ht : r.resolve l preceding called = .ok t) : P t := by
  simp only [Registry.resolve] at ht
  split at ht
  · exact h.resolveFunction ht
  · split at ht
    · next x hx =>
      have ha := List.find?_some hx
      exact h.rules x (List.mem_of_find?_eq_some hx) l preceding t ha ht
    · split at ht
      · exact h.resolveFunction ht
      · cases ht

theorem Yields.resolveAll (h : r.Yields P) {preceding : List Token} {ls : List String}
    {ts : List Token} (ht : r.resolveAll preceding ls = .ok ts) : ∀ t ∈ ts, P t := by
  induction ls generalizing preceding ts with
  | nil =>
    cases ht
    exact List.forall_mem_nil _
  | cons l ls ih =>
    simp only [Registry.resolveAll] at ht
    cases hl : r.resolve l preceding (ls.head? == some "(") with
    | error e => rw [hl] at ht; cases ht
    | ok t =>
      simp only [hl] at ht
      cases hs : r.resolveAll (t :: preceding) ls with
      | error e => rw [hs] at ht; cases ht
      | ok us =>
        rw [hs] at ht
        cases ht
        exact List.forall_mem_cons.2 ⟨h.resolve hl, ih hs⟩

theorem Yields.tokens (h : r.Yields P) {text : String} {ts : List Token}
    (ht : r.tokens text = .ok ts) : ∀ t ∈ ts, P t := by
  simp only [Registry.tokens] at ht
  cases hl : r.lexemes text with
  | error e => rw [hl] at ht; cases ht
  | ok ls =>
    rw [hl] at ht
    exact h.resolveAll ht

theorem Yields.compile (h : r.Yields P) (hb : P .leftBracket) {maxDepth : Nat} {text : String}
    {e : Expression} (he : Expression.compile r maxDepth text = .ok e) : ∀ t ∈ e.tokens, P t := by
  simp only [Expression.compile] at he
  cases ht : r.tokens text with
  | error err => rw [ht] at he; cases he
  | ok ts =>
    simp only [ht] at he
    cases hp : reversePolish maxDepth ts with
    | error err => rw [hp] at he; cases he
    | ok out =>
      rw [hp] at he
      cases he
      exact reversePolish_among hb (h.tokens ht) hp

end

end Registry

inductive Error.OfText : Error → Prop where
  | unknownToken (s : String) : OfText (.unknownToken s)
  | unknownFunction (s : String) : OfText (.unknownFunction s)
  | incorrectExpression (s : String) : OfText (.incorrectExpression s)
  | incorrectBrackets (s : String) : OfText (.incorrectBrackets s)
  | tooDeep (limit : Nat) : OfText (.tooDeep limit)

/-- Scanning fails only for a quotation that is not closed. -/
theorem scan_error {sigil : Char} {symbols : List String} {cs : List Char} {e : Error}
    (h : scan sigil symbols cs = .error e) : e.OfText := by
  induction hn : cs.length using Nat.strongRecOn generalizing cs with
  | _ n ih =>
    cases hb : cs.dropWhile Text.isBlank with
    | nil =>
      rw [scan_nil hb] at h
      cases h
    | cons c after =>
      cases ht : lexemeTail sigil symbols c after with
      | none =>
        rw [scan_unclosed hb ht] at h
        cases h
        exact .unknownToken _
      | some tail =>
        have hlength := (List.dropWhile_sublist (p := Text.isBlank) (l := cs)).length_le
        rw [hb, List.length_cons] at hlength
        have hless : (after.drop tail.length).length < n := by
          rw [List.length_drop]
          omega
        rw [scan_lexeme hb ht] at h
        cases hs : scan sigil symbols (after.drop tail.length) with
        | error e' =>
          rw [hs] at h
          cases h
          exact ih _ hless hs rfl
        | ok ls =>
          rw [hs] at h
          cases h

theorem finish_error {ws : List Waiting} {output : List Token} {e : Error}
    (h : finish ws output = .error e) : e.OfText := by
  induction ws generalizing output with
  | nil => cases h
  | cons w ws ih =>
    cases w with
    | operator o => exact ih h
    | function f => exact ih h
    | bracket =>
      cases h
      exact .incorrectBrackets _

namespace Conversion

variable {limit : Nat} {s : Conversion} {e : Error}

theorem step_error {t : Token} (h : s.step limit t = .error e) : e.OfText := by
  cases t with
  | leftBracket =>
    simp only [step, leftBracket] at h
    split at h <;> cases h
    exact .tooDeep limit
  | rightBracket =>
    simp only [step, rightBracket] at h
    split at h
    · cases h
      exact .incorrectExpression _
    · split at h <;> cases h
      exact .incorrectBrackets _
  | comma =>
    simp only [step, comma] at h
    split at h
    · cases h
      exact .incorrectExpression _
    · split at h
      · cases h
        exact .incorrectExpression _
      · split at h <;> cases h
        exact .incorrectExpression _
  | _ => cases h

theorem run_error {ts : List Token} (h : s.run limit ts = .error e) : e.OfText := by
  induction ts generalizing s with
  | nil => cases h
  | cons t ts ih =>
    simp only [run] at h
    cases hs : s.step limit t with
    | error e' =>
      rw [hs] at h
      cases h
      exact step_error hs
    | ok next =>
      rw [hs] at h
      exact ih h

end Conversion

theorem reversePolish_error {limit : Nat} {ts : List Token} {e : Error}
    (h : reversePolish limit ts = .error e) : e.OfText := by
  simp only [reversePolish] at h
  cases hs : Conversion.run limit {} ts with
  | error e' =>
    rw [hs] at h
    cases h
    exact Conversion.run_error hs
  | ok s =>
    rw [hs] at h
    exact finish_error h

section

variable {r : Registry} {e : Error}

def Registry.Reports (r : Registry) (e : Error) : Prop := ∃ x ∈ r.rules, ∃ l, x.build l = .error e

theorem resolveFunction_error {name : String} (h : r.resolveFunction name = .error e) :
    e.OfText := by
  simp only [Registry.resolveFunction] at h
  cases hn : r.function? name with
  | none =>
    rw [hn] at h
    cases h
    exact .unknownFunction name
  | some f =>
    rw [hn] at h
    cases h

theorem resolve_error {l : String} {preceding : List Token} {called : Bool}
    (h : r.resolve l preceding called = .error e) : e.OfText ∨ r.Reports e := by
  simp only [Registry.resolve] at h
  split at h
  · exact .inl (resolveFunction_error h)
  · split at h
    · next x hx => exact .inr ⟨x, List.mem_of_find?_eq_some hx, l, h⟩
    · split at h
      · exact .inl (resolveFunction_error h)
      · cases h
        exact .inl (.unknownToken l)

theorem resolveAll_error {preceding : List Token} {ls : List String}
    (h : r.resolveAll preceding ls = .error e) : e.OfText ∨ r.Reports e := by
  induction ls generalizing preceding with
  | nil => cases h
  | cons l ls ih =>
    simp only [Registry.resolveAll] at h
    cases hl : r.resolve l preceding (ls.head? == some "(") with
    | error e' =>
      rw [hl] at h
      cases h
      exact resolve_error hl
    | ok t =>
      simp only [hl] at h
      cases hs : r.resolveAll (t :: preceding) ls with
      | error e' =>
        rw [hs] at h
        cases h
        exact ih hs
      | ok ts =>
        rw [hs] at h
        cases h

theorem tokens_error {text : String} (h : r.tokens text = .error e) :
    e.OfText ∨ r.Reports e := by
  simp only [Registry.tokens, Registry.lexemes] at h
  cases hs : scan r.sigil r.symbols text.toList with
  | error e' =>
    rw [hs] at h
    cases h
    exact .inl (scan_error hs)
  | ok ls =>
    rw [hs] at h
    exact resolveAll_error h

/-- Compilation fails for the text, or for what a rule reports. -/
theorem compile_error {maxDepth : Nat} {text : String}
    (h : Expression.compile r maxDepth text = .error e) : e.OfText ∨ r.Reports e := by
  simp only [Expression.compile] at h
  cases ht : r.tokens text with
  | error e' =>
    rw [ht] at h
    cases h
    exact tokens_error ht
  | ok ts =>
    simp only [ht] at h
    cases hp : reversePolish maxDepth ts with
    | error e' =>
      rw [hp] at h
      cases h
      exact .inl (reversePolish_error hp)
    | ok out =>
      rw [hp] at h
      cases h

end

namespace Renaming

variable (R : Renaming)

def rule (x : Rule) : Rule := { x with build := fun l => (x.build l).map R.token }

def registration : Registration → Registration
  | .token name matcher build => .token name matcher fun l => (build l).map R.token
  | .operator name matcher o => .operator name matcher (R.operator o)
  | .function name minimum variadic call => .function name minimum variadic call

def registry (r : Registry) : Registry := { r with rules := r.rules.map R.rule }

def expression (e : Expression) : Expression := ⟨e.tokens.map R.token⟩

theorem place_rule (inFront : Bool) (new : Rule) (rules : List Rule) :
    place inFront (R.rule new) (rules.map R.rule) = (place inFront new rules).map R.rule := by
  have hany : (rules.map R.rule).any (·.name == (R.rule new).name) =
      rules.any (·.name == new.name) := List.any_map
  simp only [place, hany]
  split
  · rw [List.map_map, List.map_map]
    refine List.map_congr_left fun old _ => ?_
    by_cases hn : old.name = new.name
    · have hn' : (R.rule old).name = (R.rule new).name := hn
      simp only [Function.comp_apply, if_pos hn, if_pos hn']
    · have hn' : (R.rule old).name ≠ (R.rule new).name := hn
      simp only [Function.comp_apply, if_neg hn, if_neg hn']
  · split
    · rfl
    · rw [List.map_append]
      rfl

theorem insert_registry (r : Registry) (g : Registration) :
    (R.registry r).insert (R.registration g) = R.registry (r.insert g) := by
  cases g with
  | token name matcher build =>
    exact congrArg (fun rules => { r with rules })
      (R.place_rule false ⟨name, matcher, build⟩ r.rules)
  | operator name matcher o =>
    exact congrArg (fun rules => { r with rules })
      (R.place_rule true ⟨name, matcher, fun _ => .ok (.operator o)⟩ r.rules)
  | function name minimum variadic call => rfl

theorem insertAll_registry (r : Registry) (gs : List Registration) :
    (R.registry r).insertAll (gs.map R.registration) = R.registry (r.insertAll gs) := by
  induction gs generalizing r with
  | nil => rfl
  | cons g gs ih =>
    have hg := ih (r.insert g)
    rw [← insert_registry] at hg
    exact hg

/-- The matcher accepts after renamed tokens what it accepts after the tokens. -/
def Overlooks (m : Matcher) : Prop :=
  ∀ l preceding, m.accepts l (preceding.map R.token) = m.accepts l preceding

section

variable {R} {r : Registry}

theorem lexemes_registry (text : String) : (R.registry r).lexemes text = r.lexemes text := by
  have hs : (R.registry r).symbols = r.symbols := by
    simp only [Registry.symbols, registry, List.filterMap_map]
    rfl
  simp only [Registry.lexemes, hs]
  rfl

theorem resolveFunction_registry (hf : ∀ f, R.function f = f) (name : String) :
    (R.registry r).resolveFunction name = (r.resolveFunction name).map R.token := by
  have hn : (R.registry r).function? name = r.function? name := rfl
  simp only [Registry.resolveFunction, hn]
  cases r.function? name with
  | none => rfl
  | some f => simp only [Except.map, token, hf]

theorem resolve_registry (hf : ∀ f, R.function f = f)
    (hm : ∀ x ∈ r.rules, R.Overlooks x.matcher) (l : String) (preceding : List Token)
    (called : Bool) : (R.registry r).resolve l (preceding.map R.token) called =
      (r.resolve l preceding called).map R.token := by
  have hn : (R.registry r).function? l = r.function? l := rfl
  have hfind : (R.registry r).rules.find? (·.matcher.accepts l (preceding.map R.token)) =
      (r.rules.find? (·.matcher.accepts l preceding)).map R.rule := by
    rw [registry, List.find?_map]
    refine congrArg (Option.map R.rule) (List.find?_congr fun x hx => ?_)
    exact hm x hx l preceding
  simp only [Registry.resolve, hn, hfind, resolveFunction_registry hf]
  split
  · rfl
  · cases r.rules.find? (·.matcher.accepts l preceding) with
    | none =>
      simp only [Option.map_none]
      split <;> rfl
    | some x => rfl

theorem resolveAll_registry (hf : ∀ f, R.function f = f)
    (hm : ∀ x ∈ r.rules, R.Overlooks x.matcher) (preceding : List Token) (ls : List String) :
    (R.registry r).resolveAll (preceding.map R.token) ls =
      (r.resolveAll preceding ls).map (List.map R.token) := by
  induction ls generalizing preceding with
  | nil => rfl
  | cons l ls ih =>
    simp only [Registry.resolveAll, resolve_registry hf hm]
    cases r.resolve l preceding (ls.head? == some "(") with
    | error e => rfl
    | ok t =>
      have ht := ih (t :: preceding)
      simp only [Except.map, List.map_cons] at ht ⊢
      rw [ht]
      cases r.resolveAll (t :: preceding) ls <;> rfl

theorem compile_registry (hf : ∀ f, R.function f = f)
    (hm : ∀ x ∈ r.rules, R.Overlooks x.matcher) (maxDepth : Nat) (text : String) :
    Expression.compile (R.registry r) maxDepth text =
      (Expression.compile r maxDepth text).map R.expression := by
  have ht : (R.registry r).tokens text = (r.tokens text).map (List.map R.token) := by
    simp only [Registry.tokens, lexemes_registry]
    cases r.lexemes text with
    | error e => rfl
    | ok ls => exact resolveAll_registry hf hm [] ls
  simp only [Expression.compile, ht]
  cases r.tokens text with
  | error e => rfl
  | ok ts =>
    simp only [Except.map, reversePolish_map]
    cases reversePolish maxDepth ts <;> rfl

end

end Renaming

end Reckoner
