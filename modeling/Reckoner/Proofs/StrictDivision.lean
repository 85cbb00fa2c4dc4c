import Reckoner.Proofs.Division
import Reckoner.Proofs.Resolution
import Reckoner.Proofs.Sequences
import Reckoner.Proofs.Transparency

/-! Two calculators with the default operators, one of which divides strictly. They compile each
text to the same tokens but for the division, so that their evaluations are the same up to the first
division by zero. There the strict one stops, and the other goes on with zero.
-/

set_option autoImplicit false

namespace Reckoner

def Registry.equipped (config : Config) (extra : Bool) : Registry :=
  if extra then (Registry.default config).insertAll Comparison.registrations
  else .default config

theorem tame_equipped {config : Config} (hs : config.strictDivision = true) (extra : Bool) :
    (Registry.equipped config extra).Tame := by
  have hdefault : (Registry.default config).Tame := by
    rw [Registry.default, hs]
    exact (tame_basic config.sigil).insertAll
      (List.forall_mem_append.2 ⟨tame_operators, tame_functions⟩)
  cases extra with
  | false => exact hdefault
  | true => exact hdefault.insertAll tame_comparisons

theorem lenience_basic (sigil : Char) :
    lenience.registry (Registry.basic sigil) = Registry.basic sigil := by
  have hnumber : lenience.rule ⟨"number", .numeral, Registry.buildNumber⟩ =
      ⟨"number", .numeral, Registry.buildNumber⟩ := by
    refine congrArg (Rule.mk _ _) (funext fun l => ?_)
    simp only [Registry.buildNumber]
    cases Number.read? l.toList <;> rfl
  simp only [Renaming.registry, Registry.basic, List.map_cons, hnumber]
  rfl

theorem lenience_operators :
    (Builtin.operators true).map lenience.registration = Builtin.operators false := rfl

theorem lenience_functions :
    Builtin.functions.map lenience.registration = Builtin.functions := rfl

theorem lenience_comparisons :
    Comparison.registrations.map lenience.registration = Comparison.registrations := rfl

/-- The registry of the calculator that does not divide strictly is that of the strict one with the
other division in it. -/
theorem lenience_equipped (config : Config) (extra : Bool) :
    lenience.registry (Registry.equipped { config with strictDivision := true } extra) =
      Registry.equipped { config with strictDivision := false } extra := by
  have hdefault : lenience.registry (Registry.default { config with strictDivision := true }) =
      Registry.default { config with strictDivision := false } := by
    have hgs : (Builtin.operators true ++ Builtin.functions).map lenience.registration =
        Builtin.operators false ++ Builtin.functions := by
      rw [List.map_append, lenience_operators, lenience_functions]
    rw [Registry.default, ← Renaming.insertAll_registry, lenience_basic, hgs]
    rfl
  cases extra with
  | false => exact hdefault
  | true =>
    simp only [Registry.equipped, if_true]
    rw [← Renaming.insertAll_registry, hdefault, lenience_comparisons]

theorem compile_lenience (config : Config) (extra : Bool) (maxDepth : Nat) (text : String) :
    Expression.compile (Registry.equipped { config with strictDivision := false } extra) maxDepth
      text = (Expression.compile (Registry.equipped { config with strictDivision := true } extra)
        maxDepth text).map lenience.expression := by
  have htame : (Registry.equipped { config with strictDivision := true } extra).Tame :=
    tame_equipped rfl extra
  rw [← lenience_equipped]
  exact Renaming.compile_registry (fun _ => rfl) (fun x hx => (htame.rules x hx).overlooks)
    maxDepth text

theorem compile_ne {r : Registry} (h : r.Tame) (maxDepth : Nat) (text : String) :
    Expression.compile r maxDepth text ≠ .error .divisionByZero := by
  intro he
  rcases compile_error he with hof | ⟨x, hx, l, hl⟩
  · cases hof
  · exact (h.rules x hx).safe l hl

theorem compile_tame {r : Registry} (h : r.Tame) {maxDepth : Nat} {text : String} {e : Expression}
    (he : Expression.compile r maxDepth text = .ok e) : ∀ t ∈ e.tokens, t.Tame := by
  have hyields : r.Yields Token.Tame :=
    ⟨fun x hx l _ t _ ht => (h.rules x hx).builds l t ht, h.functions⟩
  exact hyields.compile trivial he

/-- A division by a number that equals zero. -/
def Application.dividesByZero (a : Application) : Bool :=
  a.name == "/" &&
    match a.operands with
    | [_, .number y] => y == 0
    | _ => false

theorem Application.dividesByZero_of_name {a : Application} (h : a.name ≠ "/") :
    a.dividesByZero = false := by
  rw [dividesByZero, beq_eq_false_iff_ne.2 h, Bool.false_and]

/-- What the strict evaluation does, beside the other one: the same without a division by zero, or
the same up to the first. -/
inductive Keeps {α : Type} : Traced α → Traced α → Prop where
  | on {x : Traced α} : x.1 ≠ .error .divisionByZero → (∀ a ∈ x.2, a.dividesByZero = false) →
      Keeps x x
  | upTo {before after : List Application} {a : Application} {answer : Except Error α} :
      (∀ b ∈ before, b.dividesByZero = false) → a.dividesByZero = true →
      Keeps (.error .divisionByZero, before) (answer, before ++ a :: after)

theorem Keeps.after {α : Type} {x y : Traced α} (h : Keeps x y) {as : List Application}
    (has : ∀ a ∈ as, a.dividesByZero = false) : Keeps (x.1, as ++ x.2) (y.1, as ++ y.2) := by
  cases h with
  | on hne hx => exact .on hne (List.forall_mem_append.2 ⟨has, hx⟩)
  | upTo hx ha =>
    rw [← List.append_assoc]
    exact .upTo (List.forall_mem_append.2 ⟨has, hx⟩) ha

namespace Evaluation

variable (env : String → Option Float) (items : List Operand)

/-- The step of a tame token with strict division, beside that without. -/
inductive StepKeeps : Except Error (List Operand × Option Application) →
    Except Error (List Operand × Option Application) → Prop where
  | same {x : Except Error (List Operand × Option Application)} : x ≠ .error .divisionByZero →
      (∀ items a, x = .ok (items, some a) → a.dividesByZero = false) → StepKeeps x x
  | zero {items : List Operand} {a : Application} : a.dividesByZero = true →
      a.result = .number 0 → StepKeeps (.error .divisionByZero) (.ok (items, some a))

namespace StepKeeps

variable {items : List Operand} {a : Application} {e : Error}

theorem of_error (he : e ≠ .divisionByZero) : StepKeeps (.error e) (.error e) :=
  .same (fun h => he (Except.error.inj h)) nofun

theorem of_silent : StepKeeps (.ok (items, none)) (.ok (items, none)) := .same nofun nofun

theorem of_applied (ha : a.dividesByZero = false) :
    StepKeeps (.ok (items, some a)) (.ok (items, some a)) := by
  refine .same nofun fun _ b hb => ?_
  cases hb
  exact ha

end StepKeeps

theorem step_operator {o : Operator} (hn : o.symbol ≠ "/") (hs : Popping.Safe o.execute) :
    StepKeeps (step env items (.operator o)) (step env items (.operator o)) := by
  simp only [step, applyOperator]
  split
  · exact .of_error (by simp [Error.missingOperand])
  · have hsafe := hs ⟨items, []⟩
    split
    · next e s he =>
      rw [he] at hsafe
      exact .of_error fun h => hsafe (congrArg Except.error h)
    · exact .of_applied (Application.dividesByZero_of_name hn)

theorem step_callable {f : Callable} (hn : f.name ≠ "/")
    (hs : ∀ args, f.call args ≠ .error .divisionByZero) :
    StepKeeps (step env items (.function f)) (step env items (.function f)) := by
  simp only [step, applyFunction]
  split
  · next e he =>
    exact .of_error (by rcases Callable.collect_error he with rfl | rfl <;> simp)
  · next args rest _ =>
    have hsafe := hs args
    split
    · next e he =>
      rw [he] at hsafe
      exact .of_error fun h => hsafe (congrArg Except.error h)
    · exact .of_applied (Application.dividesByZero_of_name hn)

def division (strict : Bool) : BinaryOperator := ⟨"/", 2, .left, Builtin.divide strict⟩

theorem step_division (x y : Value) :
    StepKeeps (step env (.value y :: .value x :: items) (.operator (Builtin.quotient true)))
      (step env (.value y :: .value x :: items) (.operator (Builtin.quotient false))) := by
  have hstep (strict : Bool) : step env (.value y :: .value x :: items)
      (.operator (Builtin.quotient strict)) = _ := step_binary env items (division strict) x y
  rw [hstep true, hstep false]
  cases y with
  | text s => exact .of_error (by simp)
  | number y =>
    cases x with
    | text s => exact .of_error (by simp)
    | number x =>
      simp only [division, BinaryOperator.result, Builtin.divide]
      cases hy : y == 0 with
      | true => exact .zero (by simp only [Application.dividesByZero, hy]; rfl) rfl
      | false => exact .of_applied (by simp only [Application.dividesByZero, hy, Bool.and_false])

theorem step_short {e : Error} (he : e ≠ .divisionByZero)
    (h : ∀ strict, step env items (.operator (Builtin.quotient strict)) = .error e) :
    StepKeeps (step env items (.operator (Builtin.quotient true)))
      (step env items (.operator (Builtin.quotient false))) := by
  rw [h true, h false]
  exact .of_error he

theorem step_quotient : StepKeeps (step env items (.operator (Builtin.quotient true)))
    (step env items (.operator (Builtin.quotient false))) := by
  have hmissing : Error.missingOperand "/" ≠ .divisionByZero := nofun
  have htext (s : String) : Error.notANumber s ≠ .divisionByZero := nofun
  rcases items with _ | ⟨y | _ | _, rest⟩
  case cons.value =>
    rcases rest with _ | ⟨x | _ | _, items⟩
    case cons.value => exact step_division env items x y
    all_goals
      cases y with
      | number y => exact step_short env _ hmissing fun _ => rfl
      | text s => exact step_short env _ (htext s) fun _ => rfl
  all_goals exact step_short env _ hmissing fun _ => rfl

theorem step_tame {t : Token} (ht : t.Tame) :
    StepKeeps (step env items t) (step env items (lenience.token t)) := by
  cases t with
  | operator o =>
    rcases ht with rfl | ⟨hn, hs⟩
    · exact step_quotient env items
    · rw [Renaming.token, lenience_operator hn]
      exact step_operator env items hn hs
  | function f => exact step_callable env items ht.1 ht.2
  | var name =>
    simp only [Renaming.token, lenience, id, Atom.token, step]
    cases env name with
    | none => exact .of_error (by simp)
    | some x => exact .of_silent
  | rightBracket => exact .of_error (by simp [Error.unexpectedInSequence])
  | comma => exact .of_error (by simp [Error.unexpectedInSequence])
  | _ => exact .of_silent

/-- The two evaluations from one state, by induction on the tokens: each step is the same in both,
or the strict one ends. -/
theorem run_tame {ts : List Token} (ht : ∀ t ∈ ts, t.Tame) :
    Keeps (run env items ts) (run env items (ts.map lenience.token)) := by
  induction ts generalizing items with
  | nil => exact .on nofun (List.forall_mem_nil _)
  | cons t ts ih =>
    obtain ⟨hhead, htail⟩ := List.forall_mem_cons.1 ht
    have hstep := step_tame env items hhead
    simp only [List.map_cons, run]
    generalize step env items t = strict at hstep
    generalize step env items (lenience.token t) = lenient at hstep
    cases hstep with
    | zero ha _ => exact .upTo (List.forall_mem_nil _) ha
    | same hne ha =>
      obtain ⟨e⟩ | ⟨items', application⟩ := strict
      · exact .on (fun h => hne (congrArg Except.error (Except.error.inj h)))
          (List.forall_mem_nil _)
      · have happ : ∀ a ∈ application.toList, a.dividesByZero = false := fun a hm =>
          ha items' a (by rw [Option.mem_toList.1 hm])
        exact (ih items' htail).after happ

theorem run_zero {ts : List Token} (ht : ∀ t ∈ ts, t.Tame) :
    ∀ a ∈ (run env items (ts.map lenience.token)).2, a.dividesByZero = true →
      a.result = .number 0 := by
  induction ts generalizing items with
  | nil => exact List.forall_mem_nil _
  | cons t ts ih =>
    obtain ⟨hhead, htail⟩ := List.forall_mem_cons.1 ht
    have hstep := step_tame env items hhead
    simp only [List.map_cons, run]
    generalize step env items t = strict at hstep
    generalize step env items (lenience.token t) = lenient at hstep
    cases hstep with
    | zero ha hr => exact List.forall_mem_cons.2 ⟨fun _ => hr, ih _ htail⟩
    | same hne ha =>
      obtain ⟨e⟩ | ⟨items', application⟩ := strict
      · exact List.forall_mem_nil _
      · refine List.forall_mem_append.2 ⟨fun a hm hzero => ?_, ih items' htail⟩
        rw [ha items' a (by rw [Option.mem_toList.1 hm])] at hzero
        cases hzero

theorem result_ne (items : List Operand) : result items ≠ .error .divisionByZero := by
  rcases items with _ | ⟨v | _, _ | ⟨x, items⟩⟩ <;> nofun

end Evaluation

theorem Value.toNumber_ne (v : Value) : v.toNumber ≠ .error .divisionByZero := by
  cases v <;> nofun

/-- What a strict evaluation gives beside one that is not. -/
structure Stricter {α : Type} (strict lenient : Traced α) : Prop where
  value : ∀ v, strict.1 = .ok v → lenient.1 = .ok v
  failure : ∀ e, strict.1 = .error e → e ≠ .divisionByZero → lenient.1 = .error e
  division : strict.1 = .error .divisionByZero ↔ ∃ a ∈ lenient.2, a.dividesByZero = true
  zero : ∀ a ∈ lenient.2, a.dividesByZero = true → a.result = .number 0
  trace : strict.1 = .error .divisionByZero →
    strict.2 = lenient.2.takeWhile fun a => !a.dividesByZero

namespace Keeps

variable {α β : Type} {x y : Traced α}

theorem finish (h : Keeps x y) {g : α → Except Error β} (hg : ∀ a, g a ≠ .error .divisionByZero) :
    Keeps (x.1.bind g, x.2) (y.1.bind g, y.2) := by
  cases h with
  | on hne hx =>
    refine .on ?_ hx
    obtain ⟨e | a, applications⟩ := x
    · exact fun h => hne (congrArg Except.error (Except.error.inj h))
    · exact hg a
  | upTo hx ha => exact .upTo hx ha

theorem stricter (h : Keeps x y)
    (hzero : ∀ a ∈ y.2, a.dividesByZero = true → a.result = .number 0) : Stricter x y := by
  cases h with
  | on hne hx =>
    refine ⟨fun _ h => h, fun _ h _ => h, ⟨fun h => absurd h hne, ?_⟩, hzero,
      fun h => absurd h hne⟩
    rintro ⟨a, hm, ha⟩
    rw [hx a hm] at ha
    cases ha
  | upTo hx ha =>
    refine ⟨nofun, fun e he hne => absurd (Except.error.inj he).symm hne,
      ⟨fun _ => ⟨_, List.mem_append_right _ List.mem_cons_self, ha⟩, fun _ => rfl⟩, hzero,
      fun _ => ?_⟩
    rw [List.takeWhile_append_of_pos fun b hb => by rw [hx b hb]; rfl, List.takeWhile_cons, ha]
    exact (List.append_nil _).symm

end Keeps

theorem evaluate_tame (env : String → Option Float) {ts : List Token} (ht : ∀ t ∈ ts, t.Tame) :
    Keeps (evaluate env ts) (evaluate env (ts.map lenience.token)) ∧
      ∀ a ∈ (evaluate env (ts.map lenience.token)).2, a.dividesByZero = true →
        a.result = .number 0 := by
  rw [evaluate_eq, evaluate_eq]
  exact ⟨(Evaluation.run_tame env [] ht).finish Evaluation.result_ne,
    Evaluation.run_zero env [] ht⟩

namespace Calculator

def tracedValue (c : Calculator) (text : String) : Traced Value :=
  ((c.evaluateValue text).answer, ((c.setTrace true).evaluateValue text).calculator.trace)

def tracedNumber (c : Calculator) (text : String) : Traced Float :=
  ((c.evaluate text).answer, ((c.setTrace true).evaluate text).calculator.trace)

theorem tracedNumber_eq (c : Calculator) (text : String) :
    c.tracedNumber text = ((c.tracedValue text).1.bind Value.toNumber, (c.tracedValue text).2) := by
  simp only [tracedNumber, tracedValue, evaluate]
  obtain ⟨e | v, d, records⟩ := c.evaluateValue text <;>
    obtain ⟨e' | v', d', records'⟩ := (c.setTrace true).evaluateValue text <;> rfl

theorem tracedValue_eq {c : Calculator} (h : c.CacheSound) (text : String) :
    c.tracedValue text =
      match c.compile text with
      | .error e => (.error e, [])
      | .ok e => e.run c.bindings := by
  have htraced : (c.setTrace true).CacheSound := h
  have hanswer : (c.evaluateValue text).answer = (c.plain.evaluateValue text).1 := by
    rw [(h.evaluateValue text).plain]
  have htrace : ((c.setTrace true).evaluateValue text).calculator.trace =
      ((c.setTrace true).plain.evaluateValue text).2.trace := by
    rw [(htraced.evaluateValue text).plain]
    rfl
  rw [tracedValue, hanswer, htrace]
  have hc : c.plain.compile text = c.compile text := rfl
  have hct : (c.setTrace true).plain.compile text = c.compile text := rfl
  simp only [PlainCalculator.evaluateValue, hc, hct]
  cases c.compile text <;> rfl

/-- Two calculators with the default operators, with the comparisons or without them, that differ in
how they divide and hold the same variables. Their caches may hold what was evaluated before. -/
structure Twins (config : Config) (extra : Bool) (strict lenient : Calculator) : Prop where
  strict_config : strict.config = { config with strictDivision := true }
  lenient_config : lenient.config = { config with strictDivision := false }
  strict_registry : strict.registry = .equipped { config with strictDivision := true } extra
  lenient_registry : lenient.registry = .equipped { config with strictDivision := false } extra
  bindings : strict.bindings = lenient.bindings
  strict_sound : strict.CacheSound
  lenient_sound : lenient.CacheSound

/-- Strict division only turns divisions by zero into errors. -/
theorem Twins.divide_strictly {config : Config} {extra : Bool} {S L : Calculator}
    (h : Twins config extra S L) (text : String) :
    Stricter (S.tracedValue text) (L.tracedValue text) ∧
      Stricter (S.tracedNumber text) (L.tracedNumber text) := by
  suffices hkeeps : Keeps (S.tracedValue text) (L.tracedValue text) ∧
      ∀ a ∈ (L.tracedValue text).2, a.dividesByZero = true → a.result = .number 0 by
    obtain ⟨hk, hz⟩ := hkeeps
    rw [tracedNumber_eq, tracedNumber_eq]
    exact ⟨hk.stricter hz, (hk.finish Value.toNumber_ne).stricter hz⟩
  have hcompile : L.compile text = (S.compile text).map lenience.expression := by
    rw [Calculator.compile, Calculator.compile, h.strict_registry, h.lenient_registry,
      h.strict_config, h.lenient_config]
    exact compile_lenience config extra config.maxDepth text
  rw [tracedValue_eq h.strict_sound, tracedValue_eq h.lenient_sound, hcompile, h.bindings]
  have htame : S.registry.Tame := by
    rw [h.strict_registry]
    exact tame_equipped rfl extra
  cases he : S.compile text with
  | error e =>
    refine ⟨.on (fun hz => ?_) (List.forall_mem_nil _), List.forall_mem_nil _⟩
    rw [Except.error.inj hz] at he
    exact compile_ne htame _ _ he
  | ok e =>
    have htokens : ∀ t ∈ e.tokens, t.Tame := compile_tame htame he
    exact evaluate_tame L.bindings.get? htokens

def prepared (config : Config) (extra : Bool) (bindings : Bindings Float) :
    Except Error Calculator :=
  (standard config).map fun c => { (if extra then c.loadExtra.calculator else c) with bindings }

theorem prepared_eq {config : Config} {extra : Bool} {bindings : Bindings Float} {c : Calculator}
    (h : prepared config extra bindings = .ok c) :
    c = { config, registry := .equipped config extra, bindings } := by
  simp only [prepared, standard] at h
  cases hv : config.validate with
  | error e =>
    rw [hv] at h
    cases h
  | ok u =>
    rw [hv] at h
    cases h
    cases extra <;> rfl

theorem twins_prepared {config : Config} {extra : Bool} {bindings : Bindings Float}
    {S L : Calculator} (hS : prepared { config with strictDivision := true } extra bindings = .ok S)
    (hL : prepared { config with strictDivision := false } extra bindings = .ok L) :
    Twins config extra S L := by
  rw [prepared_eq hS, prepared_eq hL]
  exact ⟨rfl, rfl, rfl, rfl, rfl, cacheSound_empty rfl, cacheSound_empty rfl⟩

theorem tokens_zero : (Registry.default {}).tokens "1 / 0" =
    .ok [.number 1, .operator (Builtin.quotient false), .number 0] := by
  have hs : (Registry.default {}).lexemes "1 / 0" = .ok ["1", "/", "0"] := by
    rw [lexemes_default, scan_cons rfl rfl (scan_cons rfl rfl (scan_cons rfl rfl (scan_nil rfl)))]
    rfl
  let one : Literal := .number "1" (by decide)
  let zero : Literal := .number "0" (by decide)
  have hone : one.atom.token = .number 1 := by
    have hn : (Number.Numeral.take Char.isDigit "1".toList).1 = ⟨['1'], none, none⟩ := by decide
    simp only [one, Literal.atom, Atom.token, hn]
    rfl
  have hzero : zero.atom.token = .number 0 := by
    have hn : (Number.Numeral.take Char.isDigit "0".toList).1 = ⟨['0'], none, none⟩ := by decide
    simp only [zero, Literal.atom, Atom.token, hn]
    rfl
  have hl : (Registry.default {}).resolveAll [] [one.lexeme, Sign.divide.lexeme, zero.lexeme] =
      .ok [one.atom.token, .operator Sign.divide.operator, zero.atom.token] :=
    resolveAll_cons (Language.resolve_literal one)
      (resolveAll_cons (Language.resolve_sign .divide rfl)
        (resolveAll_cons (Language.resolve_literal zero) rfl))
  rw [hone, hzero] at hl
  rw [Registry.tokens, hs]
  exact hl

theorem tracedValue_zero {L : Calculator} (hL : prepared {} false {} = .ok L) :
    L.tracedValue "1 / 0" =
      (.ok (.number 0), [⟨"/", [.number 1, .number 0], .number 0⟩]) := by
  have hc : L.compile "1 / 0" =
      .ok ⟨[.number 1, .number 0, .operator (Builtin.quotient false)]⟩ := by
    rw [prepared_eq hL]
    simp only [Calculator.compile, Expression.compile, Registry.equipped, Bool.false_eq_true,
      if_false, tokens_zero]
    rfl
  have hsound : L.CacheSound := by
    rw [prepared_eq hL]
    exact cacheSound_empty rfl
  rw [tracedValue_eq hsound, hc]
  rfl

theorem divide_strictly_zero : ∃ S L : Calculator,
    prepared { strictDivision := true } false {} = .ok S ∧ prepared {} false {} = .ok L ∧
      Twins {} false S L ∧ S.tracedValue "1 / 0" = (.error .divisionByZero, []) := by
  obtain ⟨S, hS⟩ : ∃ S, prepared { strictDivision := true } false {} = .ok S := ⟨_, rfl⟩
  obtain ⟨L, hL⟩ : ∃ L, prepared {} false {} = .ok L := ⟨_, rfl⟩
  have htwins : Twins {} false S L := twins_prepared hS hL
  have hstrict := (Twins.divide_strictly htwins "1 / 0").1
  have hlenient := tracedValue_zero hL
  have hy : ((0 : Float) == 0) = true := by decide +kernel
  have ha : Application.dividesByZero ⟨"/", [.number 1, .number 0], .number 0⟩ = true := by
    simp only [Application.dividesByZero, hy]
    rfl
  have hfails : (S.tracedValue "1 / 0").1 = .error .divisionByZero := by
    refine hstrict.division.2 ⟨_, ?_, ha⟩
    rw [hlenient]
    exact List.mem_singleton_self _
  have htrace := hstrict.trace hfails
  rw [hlenient, List.takeWhile_cons, ha] at htrace
  exact ⟨S, L, hS, hL, htwins, Prod.ext hfails htrace⟩

end Calculator

end Reckoner
