import Reckoner.Proofs.Plain
import Reckoner.Proofs.Registration

/-! The cache of a calculator can not be seen in its answers. What it keeps is what compilation
would give, since each change of the registry empties it. So a calculator answers along every run as
one without a cache, and has the same registry, variables, trace and result.
-/

set_option autoImplicit false

namespace Reckoner

namespace Calculator

def CacheSound (c : Calculator) : Prop :=
  ∀ entry ∈ c.cache.entries, c.compile entry.1 = .ok entry.2

def plain (c : Calculator) : PlainCalculator :=
  ⟨c.config, c.registry, c.bindings, c.tracing, c.trace, c.result⟩

end Calculator

/-- An operation answers as one on calculators without a cache, and keeps the cache sound. -/
structure Outcome.Shows {α : Type} (o : Outcome α) (p : Except Error α × PlainCalculator) :
    Prop where
  plain : p = (o.answer, o.calculator.plain)
  sound : o.calculator.CacheSound

namespace Calculator

variable {c : Calculator} {text : String} {e : Expression}

theorem cacheSound_empty (h : c.cache = {}) : c.CacheSound := by
  rw [CacheSound, h]
  exact List.forall_mem_nil _

theorem CacheSound.set (h : c.CacheSound) (he : c.compile text = .ok e) :
    ({ c with cache := c.cache.set text e } : Calculator).CacheSound := by
  intro entry hm
  rcases Bindings.mem_put hm with rfl | hm
  · exact he
  · exact h entry hm

theorem CacheSound.remember (h : c.CacheSound) (he : c.compile text = .ok e) :
    (c.remember text e).1.CacheSound := by
  simp only [Calculator.remember]
  split
  · exact h
  · split
    · have hempty : ({ c with cache := {} } : Calculator).CacheSound := cacheSound_empty rfl
      exact hempty.set he
    · exact h.set he

theorem plain_remember (c : Calculator) (text : String) (e : Expression) :
    (c.remember text e).1.plain = c.plain := by
  simp only [remember]
  split
  · rfl
  · split
    · rfl
    · rfl

theorem compile_of_cached (h : c.CacheSound) (he : c.cached? text = some e) :
    c.compile text = .ok e := by
  simp only [cached?] at he
  split at he
  · exact h (text, e) (Bindings.mem_of_find? he)
  · cases he

/-- Whether an expression comes from the cache can not be told. -/
theorem CacheSound.prepare (h : c.CacheSound) (text : String) :
    (c.prepare text).Shows (c.compile text, c.plain) := by
  simp only [Calculator.prepare]
  cases hc : c.cached? text with
  | some e => exact ⟨by rw [compile_of_cached h hc]; rfl, h⟩
  | none =>
    cases he : c.compile text with
    | error e => exact ⟨rfl, h⟩
    | ok e => exact ⟨by simp only [plain_remember], h.remember he⟩

theorem CacheSound.evaluateValue (h : c.CacheSound) (text : String) :
    (c.evaluateValue text).Shows (c.plain.evaluateValue text) := by
  obtain ⟨hp, hs⟩ := h.prepare text
  obtain ⟨hcompile, hplain⟩ := Prod.mk.inj hp
  have hc : c.plain.compile text = (c.prepare text).answer := hcompile
  simp only [Calculator.evaluateValue, PlainCalculator.evaluateValue, hc]
  generalize c.prepare text = o at hplain hs
  obtain ⟨_ | e, c', records⟩ := o
  · exact ⟨by rw [hplain], hs⟩
  · exact ⟨by rw [hplain]; rfl, hs⟩

theorem CacheSound.evaluate (h : c.CacheSound) (text : String) :
    (c.evaluate text).Shows (c.plain.evaluate text) := by
  obtain ⟨hp, hs⟩ := h.evaluateValue text
  simp only [Calculator.evaluate, PlainCalculator.evaluate, hp]
  generalize c.evaluateValue text = o at hs
  obtain ⟨_ | v, c', records⟩ := o
  · exact ⟨rfl, hs⟩
  · exact ⟨rfl, hs⟩

theorem CacheSound.chainAs (h : c.CacheSound) (text name : String) :
    (c.chainAs text name).Shows (c.plain.chainAs text name) := by
  obtain ⟨hp, hs⟩ := h.evaluate text
  simp only [Calculator.chainAs, PlainCalculator.chainAs, hp]
  generalize c.evaluate text = o at hs
  obtain ⟨_ | x, c', records⟩ := o
  · exact ⟨rfl, hs⟩
  · exact ⟨rfl, hs⟩

theorem CacheSound.freeze (h : c.CacheSound) : c.freeze.CacheSound := fun entry hm =>
  (Expression.compile_freeze c.registry c.config.maxDepth entry.1).trans (h entry hm)

theorem CacheSound.register (h : c.CacheSound) (g : Registration) :
    (c.register g).Shows (c.plain.register g) := by
  have hr : c.plain.registry = c.registry := rfl
  simp only [Calculator.register, PlainCalculator.register, hr]
  cases c.registry.register g with
  | error e => exact ⟨rfl, h⟩
  | ok registry => exact ⟨rfl, cacheSound_empty rfl⟩

theorem CacheSound.loadExtra (h : c.CacheSound) : c.loadExtra.Shows c.plain.loadExtra := by
  have hr : c.plain.registry = c.registry := rfl
  simp only [Calculator.loadExtra, PlainCalculator.loadExtra, hr,
    Registry.registerAll_comparisons]
  cases c.registry.frozen with
  | true => exact ⟨rfl, h⟩
  | false => exact ⟨rfl, cacheSound_empty rfl⟩

end Calculator

namespace Session

structure Sound (s : Session) : Prop where
  calculator : s.calculator.CacheSound
  saved : ∀ c ∈ s.saved, c.CacheSound

def plain (s : Session) : PlainSession := ⟨s.calculator.plain, s.saved.map (·.plain)⟩

variable {s : Session}

theorem Sound.after {α : Type} (h : s.Sound) (reply : α → Reply) {o : Outcome α}
    {p : Except Error α × PlainCalculator} (ho : o.Shows p) :
    s.plain.after reply p = (o.answer.map reply, plain { s with calculator := o.calculator }) ∧
      ({ s with calculator := o.calculator } : Session).Sound := by
  refine ⟨?_, ho.sound, h.saved⟩
  rw [ho.plain]
  rfl

theorem Sound.restored (h : s.Sound) : (s.saved.getD s.calculator).CacheSound := by
  cases hs : s.saved with
  | none => exact h.calculator
  | some c => exact h.saved c hs

theorem Sound.answer (h : s.Sound) (command : Command) :
    s.plain.answer command = ((s.answer command).1, (s.answer command).2.plain) ∧
      (s.answer command).2.Sound := by
  cases command with
  | tokenize text => exact ⟨rfl, h⟩
  | compile text => exact ⟨rfl, h⟩
  | evaluate text => exact h.after .number (h.calculator.evaluate text)
  | evaluateValue text => exact h.after .value (h.calculator.evaluateValue text)
  | chain text => exact h.after _ (h.calculator.chainAs text chainVariable)
  | chainAs text name => exact h.after _ (h.calculator.chainAs text name)
  | register g => exact h.after _ (h.calculator.register g)
  | loadExtra => exact h.after _ h.calculator.loadExtra
  | freeze => exact ⟨rfl, h.calculator.freeze, h.saved⟩
  | setVariable name value => exact ⟨rfl, h.calculator, h.saved⟩
  | setVariables entries clear => cases clear <;> exact ⟨rfl, h.calculator, h.saved⟩
  | removeVariable name => exact ⟨rfl, h.calculator, h.saved⟩
  | removeAllVariables => exact ⟨rfl, h.calculator, h.saved⟩
  | setTrace on => exact ⟨rfl, h.calculator, h.saved⟩
  | clearCache => exact ⟨rfl, Calculator.cacheSound_empty rfl, h.saved⟩
  | save =>
    refine ⟨rfl, h.calculator, fun c hc => ?_⟩
    cases hc
    exact h.calculator
  | restore =>
    refine ⟨?_, h.restored, h.saved⟩
    simp only [PlainSession.answer, plain, PlainSession.change, Session.answer, perform]
    cases s.saved <;> rfl

theorem sound_answer (s : Session) (h : s.Sound) (command : Command) :
    (s.answer command).2.Sound := (h.answer command).2

def transparent : Simulation answer PlainSession.answer where
  view := plain
  Invariant := Sound
  replies _ h command := (h.answer command).1
  keeps := sound_answer

end Session

theorem Origin.cache_build {origin : Origin} {c : Calculator} (h : origin.build = .ok c) :
    c.cache = {} := by
  cases origin with
  | new =>
    cases h
    rfl
  | standard config =>
    simp only [build, Calculator.standard] at h
    split at h
    · cases h
    · cases h
      rfl
  | blank config =>
    simp only [build, Calculator.blank] at h
    split at h
    · cases h
    · cases h
      rfl

theorem Origin.sound_build {origin : Origin} {c : Calculator} (h : origin.build = .ok c) :
    ∀ s ∈ [(⟨c, none⟩ : Session)], s.Sound := by
  intro s hs
  rw [List.mem_singleton.1 hs]
  exact ⟨Calculator.cacheSound_empty (cache_build h), fun _ h => nomatch h⟩

theorem Origin.buildPlain_eq (origin : Origin) :
    origin.buildPlain = origin.build.map Calculator.plain := by
  cases origin with
  | new => rfl
  | standard config =>
    simp only [buildPlain, build, Calculator.standard]
    cases config.validate <;> rfl
  | blank config =>
    simp only [buildPlain, build, Calculator.blank]
    cases config.validate <;> rfl

/-- Along every run a calculator answers as one that keeps nothing, and what it does keep is what
compilation would give. -/
theorem play_plain (origin : Origin) (moves : List Move) :
    (origin.build.map fun c =>
        (play Session.answer [⟨c, none⟩] moves).map fun x => (x.1, x.2.map Session.plain)) =
      (origin.buildPlain.map fun p => play PlainSession.answer [⟨p, none⟩] moves) ∧
    ∀ c, origin.build = .ok c →
      ∀ s ∈ visited Session.answer [⟨c, none⟩] moves, s.Sound := by
  constructor
  · rw [Origin.buildPlain_eq]
    cases h : origin.build with
    | error e => rfl
    | ok c =>
      have hplay := Session.transparent.view_play (Origin.sound_build h) moves
      exact congrArg Except.ok hplay.symm
  · intro c h
    exact visited_keeps Session.transparent.keeps (Origin.sound_build h) moves

theorem play_plain_replaced :
    ∃ c, Origin.new.build = .ok c ∧
      ∀ s ∈ visited Session.answer [⟨c, none⟩] [.perform 0 (.evaluate "1 + 2"), .copy 0,
        .perform 0 (.register (.operator "plus" (.literal "+") Builtin.minus)),
        .perform 0 (.evaluate "1 + 2")], s.Sound :=
  ⟨_, rfl, (play_plain .new _).2 _ rfl⟩

end Reckoner
