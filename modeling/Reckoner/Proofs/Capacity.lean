import Reckoner.Proofs.Atomicity
import Reckoner.Proofs.Resolution

/-! How much the cache of a calculator holds. Only evaluations add to it, one expression at a time,
and a cache that is full is emptied first. So it holds no more than its capacity, unless the
capacity is zero. Then it holds the text that was compiled last, which is taken from it if it is
evaluated again.
-/

set_option autoImplicit false

namespace Reckoner

/-- What a calculator needs to prepare an expression, and what that changes. -/
structure Store where
  config : Config
  registry : Registry
  cache : Bindings Expression
  hits : Nat

namespace Store

/-- Nothing was taken from the cache, and nothing is new in it. -/
structure Idle (a b : Store) : Prop where
  config : b.config = a.config
  hits : b.hits = a.hits
  cache : b.cache = a.cache ∨ b.cache = {}

/-- The capacity is not exceeded, if it is not zero. -/
def Fits (s : Store) : Prop := s.cache.size ≤ max 1 s.config.cacheSize

end Store

def Command.evaluated? : Command → Option String
  | evaluate text | evaluateValue text | chain text | chainAs text _ => some text
  | _ => none

namespace Bindings

variable {α : Type} {name : String} {value : α}

theorem length_put_le {entries : List (String × α)} :
    (put name value entries).length ≤ entries.length + 1 := by
  induction entries with
  | nil => simp [put]
  | cons e rest ih =>
    simp only [put]
    split_ifs <;> simp [ih]

theorem size_set_le (b : Bindings α) : (b.set name value).size ≤ b.size + 1 := length_put_le

end Bindings

namespace Calculator

variable {c d : Calculator} {text : String} {e : Expression}

theorem compile_congr (hr : d.registry = c.registry) (hc : d.config = c.config) :
    d.compile = c.compile := by
  funext text
  rw [compile, hr, hc, compile]

def store (c : Calculator) : Store := ⟨c.config, c.registry, c.cache, c.cacheHits⟩

theorem store_eq_iff : d.store = c.store ↔ d.config = c.config ∧ d.registry = c.registry ∧
    d.cache = c.cache ∧ d.cacheHits = c.cacheHits := by
  simp only [store, Store.mk.injEq]

theorem store_evaluateValue (c : Calculator) (text : String) :
    (c.evaluateValue text).calculator.store = (c.prepare text).calculator.store := by
  simp only [evaluateValue]
  obtain ⟨_ | e, d, records⟩ := c.prepare text <;> rfl

theorem store_evaluate (c : Calculator) (text : String) :
    (c.evaluate text).calculator.store = (c.prepare text).calculator.store := by
  rw [← store_evaluateValue]
  simp only [evaluate]
  obtain ⟨_ | v, d, records⟩ := c.evaluateValue text <;> rfl

theorem store_chainAs (c : Calculator) (text name : String) :
    (c.chainAs text name).calculator.store = (c.prepare text).calculator.store := by
  rw [← store_evaluate]
  simp only [chainAs]
  obtain ⟨_ | x, d, records⟩ := c.evaluate text <;> rfl

theorem store_remember (h : c.config.cache = true) (text : String) (e : Expression) :
    (c.remember text e).1.store = { c.store with
      cache := (if c.config.cacheSize ≤ c.cache.size then {} else c.cache).set text e } := by
  rw [remember, if_neg (not_not.2 h)]
  split_ifs <;> rfl

/-- A text is taken from the cache, can not be compiled, or is compiled and kept. -/
theorem prepare_cases (c : Calculator) (text : String) :
    (∃ e, c.cached? text = some e ∧
      (c.prepare text).calculator.store = { c.store with hits := c.cacheHits + 1 }) ∨
    (∃ err, c.cached? text = none ∧ c.compile text = .error err ∧
      (c.prepare text).calculator.store = c.store) ∨
    ∃ e, c.cached? text = none ∧ c.compile text = .ok e ∧
      (c.prepare text).calculator.store = (c.remember text e).1.store := by
  simp only [prepare]
  cases c.cached? text with
  | some e => exact .inl ⟨e, rfl, rfl⟩
  | none =>
    cases c.compile text with
    | error err => exact .inr (.inl ⟨err, rfl, rfl, rfl⟩)
    | ok e => exact .inr (.inr ⟨e, rfl, rfl, rfl⟩)

theorem rules_prepare (c : Calculator) (text : String) :
    (c.prepare text).calculator.store.registry = c.registry ∧
      (c.prepare text).calculator.store.config = c.config := by
  obtain ⟨e, -, hstore⟩ | ⟨err, -, -, hstore⟩ | ⟨e, -, -, hstore⟩ := c.prepare_cases text
  · rw [hstore]
    exact ⟨rfl, rfl⟩
  · rw [hstore]
    exact ⟨rfl, rfl⟩
  · rw [hstore, remember]
    split_ifs <;> exact ⟨rfl, rfl⟩

/-- What is prepared still fits, since a full cache is emptied first. -/
theorem fits_prepare (h : c.store.Fits) (text : String) :
    (c.prepare text).calculator.store.Fits := by
  obtain ⟨e, -, hstore⟩ | ⟨err, -, -, hstore⟩ | ⟨e, -, -, hstore⟩ := c.prepare_cases text
  · rw [hstore]
    exact h
  · rwa [hstore]
  rw [hstore]
  cases hon : c.config.cache with
  | false => rwa [remember, if_pos (by simp [hon])]
  | true =>
    rw [store_remember hon]
    have hsize : c.cache.size ≤ max 1 c.config.cacheSize := h
    by_cases hfull : c.config.cacheSize ≤ c.cache.size
    · rw [if_pos hfull]
      exact Nat.le_max_left 1 _
    · rw [if_neg hfull]
      have hroom : c.cache.size + 1 ≤ max 1 c.config.cacheSize := by omega
      exact c.cache.size_set_le.trans hroom

/-- Without any capacity the cache holds the last text that was compiled. -/
theorem prepare_zero (hs : c.CacheSound) (hf : c.store.Fits) (hon : c.config.cache = true)
    (hz : c.config.cacheSize = 0) (he : c.compile text = .ok e) :
    (c.prepare text).calculator.store.cache.entries = [(text, e)] ∧
      (c.cache.entries = [(text, e)] ∧
          (c.prepare text).calculator.store.hits = c.cacheHits + 1 ∨
        c.cache.get? text = none ∧ (c.prepare text).calculator.store.hits = c.cacheHits) := by
  obtain ⟨e', hc, hstore⟩ | ⟨err, -, hc, -⟩ | ⟨e', hnone, hc, hstore⟩ := c.prepare_cases text
  · have hsame : e' = e := Except.ok.inj ((compile_of_cached hs hc).symm.trans he)
    rw [cached?, if_pos hon] at hc
    have hmem : (text, e) ∈ c.cache.entries := hsame ▸ Bindings.mem_of_find? hc
    have hone : c.cache.entries = [(text, e)] := by
      have hsize : c.cache.entries.length ≤ max 1 c.config.cacheSize := hf
      rw [hz] at hsize
      obtain ⟨x, hx⟩ : ∃ x, c.cache.entries = [x] :=
        List.length_eq_one_iff.1 (Nat.le_antisymm hsize (List.length_pos_of_mem hmem))
      rw [hx] at hmem ⊢
      rw [List.mem_singleton.1 hmem]
    rw [hstore]
    exact ⟨hone, .inl ⟨hone, rfl⟩⟩
  · rw [hc] at he
    cases he
  · have hsame : e' = e := Except.ok.inj (hc.symm.trans he)
    subst hsame
    rw [cached?, if_pos hon] at hnone
    rw [hstore, store_remember hon, hz, if_pos (Nat.zero_le _)]
    exact ⟨rfl, .inr ⟨hnone, rfl⟩⟩

end Calculator

namespace Session

variable {s : Session} {command : Command} {text : String}

theorem store_evaluated (s : Session) (h : command.evaluated? = some text) :
    (s.answer command).2.calculator.store = (s.calculator.prepare text).calculator.store := by
  cases command with
  | evaluate text => cases h; exact s.calculator.store_evaluate _
  | evaluateValue text => cases h; exact s.calculator.store_evaluateValue _
  | chain text => cases h; exact s.calculator.store_chainAs _ _
  | chainAs text name => cases h; exact s.calculator.store_chainAs _ _
  | _ => cases h

theorem rules_evaluated (s : Session) (h : command.evaluated? = some text) :
    (s.answer command).2.calculator.registry = s.calculator.registry ∧
      (s.answer command).2.calculator.config = s.calculator.config := by
  have hrules := s.calculator.rules_prepare text
  rwa [← s.store_evaluated h] at hrules

theorem compile_evaluated (s : Session) (h : command.evaluated? = some text) :
    (s.answer command).2.calculator.compile = s.calculator.compile :=
  Calculator.compile_congr (s.rules_evaluated h).1 (s.rules_evaluated h).2

theorem store_idle (s : Session) (h : command.evaluated? = none) :
    s.calculator.store.Idle (s.answer command).2.calculator.store ∨
      command = .restore ∧ (s.answer command).2.calculator = s.saved.getD s.calculator := by
  cases command with
  | evaluate text => cases h
  | evaluateValue text => cases h
  | chain text => cases h
  | chainAs text name => cases h
  | restore => exact .inr ⟨rfl, rfl⟩
  | register g =>
    refine .inl ?_
    simp only [answer, perform, Session.after, Calculator.register]
    cases s.calculator.registry.register g with
    | error e => exact ⟨rfl, rfl, .inl rfl⟩
    | ok r => exact ⟨rfl, rfl, .inr rfl⟩
  | loadExtra =>
    refine .inl ?_
    simp only [answer, perform, Session.after, Calculator.loadExtra,
      Registry.registerAll_comparisons]
    cases s.calculator.registry.frozen with
    | true => exact ⟨rfl, rfl, .inl rfl⟩
    | false => exact ⟨rfl, rfl, .inr rfl⟩
  | clearCache => exact .inl ⟨rfl, rfl, .inr rfl⟩
  | setVariables entries clear => exact .inl (by cases clear <;> exact ⟨rfl, rfl, .inl rfl⟩)
  | _ => exact .inl ⟨rfl, rfl, .inl rfl⟩

theorem saved_answer (s : Session) (command : Command) :
    (s.answer command).2.saved = s.saved ∨ (s.answer command).2.saved = some s.calculator := by
  cases command with
  | save => exact .inr rfl
  | _ => exact .inl rfl

structure Fits (s : Session) : Prop where
  calculator : s.calculator.store.Fits
  saved : ∀ c ∈ s.saved, c.store.Fits

theorem fits_answer (s : Session) (h : s.Fits) (command : Command) :
    (s.answer command).2.Fits := by
  refine ⟨?_, fun c hc => ?_⟩
  · cases he : command.evaluated? with
    | some text =>
      rw [s.store_evaluated he]
      exact Calculator.fits_prepare h.calculator text
    | none =>
      obtain ⟨hconfig, -, hcache | hcache⟩ | ⟨-, hc⟩ := s.store_idle he
      · rw [Store.Fits, hcache, hconfig]
        exact h.calculator
      · rw [Store.Fits, hcache]
        exact Nat.zero_le _
      · rw [hc]
        cases hs : s.saved with
        | none => exact h.calculator
        | some c => exact h.saved c hs
  · obtain hs | hs := s.saved_answer command
    · exact h.saved c (hs ▸ hc)
    · rw [hs] at hc
      cases hc
      exact h.calculator

theorem fits_build {origin : Origin} {c : Calculator} (h : origin.build = .ok c) :
    Fits ⟨c, none⟩ := by
  refine ⟨?_, fun _ hc => nomatch hc⟩
  have hempty : c.store.cache = {} := Origin.cache_build h
  rw [Store.Fits, hempty]
  exact Nat.zero_le _

theorem Reachable.fits (h : s.Reachable) : s.Fits := by
  obtain ⟨origin, c, moves, hc, hs⟩ := h
  exact visited_keeps fits_answer (List.forall_mem_singleton.2 (fits_build hc)) moves s hs

theorem answer_zero {e : Expression} (hs : s.Sound) (hf : s.Fits)
    (hon : s.calculator.config.cache = true) (hz : s.calculator.config.cacheSize = 0)
    (ht : command.evaluated? = some text) (he : s.calculator.compile text = .ok e) :
    (s.answer command).2.calculator.cache.entries = [(text, e)] ∧
      (s.calculator.cache.entries = [(text, e)] ∧
          (s.answer command).2.calculator.cacheHits = s.calculator.cacheHits + 1 ∨
        s.calculator.cache.get? text = none ∧
          (s.answer command).2.calculator.cacheHits = s.calculator.cacheHits) := by
  have hprepare := Calculator.prepare_zero hs.calculator hf.calculator hon hz he
  rwa [← s.store_evaluated ht] at hprepare

/-- The cache holds no more than its capacity, if that is not zero. With a capacity of zero it holds
the text that was compiled last, and that one is taken from it if it is evaluated again. -/
theorem Reachable.cache_bounded (h : s.Reachable) :
    s.calculator.cache.size ≤ max 1 s.calculator.config.cacheSize ∧
    (s.calculator.config.cache = true → s.calculator.config.cacheSize = 0 →
      ∀ command text e, command.evaluated? = some text → s.calculator.compile text = .ok e →
        (s.answer command).2.calculator.cache.entries = [(text, e)] ∧
          (s.calculator.cache.entries = [(text, e)] ∧
              (s.answer command).2.calculator.cacheHits = s.calculator.cacheHits + 1 ∨
            s.calculator.cache.get? text = none ∧
              (s.answer command).2.calculator.cacheHits = s.calculator.cacheHits)) :=
  ⟨h.fits.calculator, fun hon hz _ _ _ => answer_zero h.sound h.fits hon hz⟩

end Session

theorem tokens_one (config : Config) :
    ∃ x, (Registry.default config).tokens "1" = .ok [.number x] := by
  have hlexemes : (Registry.default config).lexemes "1" = .ok ["1"] := by
    rw [lexemes_default, scan_cons rfl rfl (scan_nil rfl)]
    rfl
  obtain ⟨n, hproper, htext⟩ : ∃ n : Number.Numeral, n.Proper Char.isDigit ∧
      String.ofList n.text = "1" :=
    ⟨⟨['1'], none, none⟩, Number.Numeral.proper_digit rfl, rfl⟩
  have hnumber : (Registry.default config).resolve (.ofList n.text) [] false =
      .ok (.number n.value) := resolve_numeral hproper
  rw [htext] at hnumber
  refine ⟨n.value, ?_⟩
  rw [Registry.tokens, hlexemes]
  exact resolveAll_cons hnumber rfl

theorem compile_one (config : Config) :
    ∃ e, (Calculator.build config (.default config)).compile "1" = .ok e := by
  obtain ⟨x, hx⟩ := tokens_one config
  refine ⟨⟨[.number x]⟩, ?_⟩
  simp only [Calculator.compile, Expression.compile, Calculator.build, hx]
  rfl

namespace Session

theorem exists_kept : ∃ c e, (Origin.standard { cacheSize := 0 }).build = .ok c ∧
    (answer ⟨c, none⟩ (.evaluate "1")).2.calculator.config = { cacheSize := 0 } ∧
    (answer ⟨c, none⟩ (.evaluate "1")).2.calculator.compile "1" = .ok e ∧
    (answer ⟨c, none⟩ (.evaluate "1")).2.calculator.cache.entries = [("1", e)] ∧
    (answer ⟨c, none⟩ (.evaluate "1")).2.calculator.cacheHits = 0 := by
  obtain ⟨c, hc, hnew⟩ : ∃ c, (Origin.standard { cacheSize := 0 }).build = .ok c ∧
    c = .build { cacheSize := 0 } (.default { cacheSize := 0 }) := ⟨_, rfl, rfl⟩
  obtain ⟨e, he⟩ := compile_one { cacheSize := 0 }
  rw [← hnew] at he
  have hconfig : c.config = { cacheSize := 0 } := by rw [hnew]; rfl
  have hsound : Sound ⟨c, none⟩ := Origin.sound_build hc _ (List.mem_singleton_self _)
  have ht : (Command.evaluate "1").evaluated? = some "1" := rfl
  obtain ⟨hentries, ⟨hone, -⟩ | ⟨-, hkept⟩⟩ :=
    answer_zero hsound (fits_build hc) (by rw [hconfig]) (by rw [hconfig]) ht he
  · rw [hnew] at hone
    cases hone
  · refine ⟨c, e, hc, (rules_evaluated _ ht).2.trans hconfig,
      (congrFun (compile_evaluated _ ht) "1").trans he, hentries, hkept.trans ?_⟩
    rw [hnew]
    rfl

/-- With a capacity of zero, one text evaluated twice is kept and used. -/
theorem capacity_exceeded : ∃ c, (Origin.standard { cacheSize := 0 }).build = .ok c ∧
    c.config.cache = true ∧
    ∃ s ∈ visited answer [⟨c, none⟩] [.perform 0 (.evaluate "1"), .perform 0 (.evaluate "1")],
      s.calculator.config.cacheSize < s.calculator.cache.size ∧ s.calculator.cacheHits = 1 := by
  obtain ⟨c, e, hc, hconfig, he, hentries, hhits⟩ := exists_kept
  have hsound : Sound ⟨c, none⟩ := Origin.sound_build hc _ (List.mem_singleton_self _)
  have ht : (Command.evaluate "1").evaluated? = some "1" := rfl
  have hon : c.config.cache = true := by
    rw [← (rules_evaluated ⟨c, none⟩ ht).2, hconfig]
  let once := (answer ⟨c, none⟩ (.evaluate "1")).2
  have hmem : (once.answer (.evaluate "1")).2 ∈
      visited answer [⟨c, none⟩] [.perform 0 (.evaluate "1"), .perform 0 (.evaluate "1")] :=
    .tail _ (.tail _ (.head _))
  obtain ⟨hagain, ⟨-, hhit⟩ | ⟨hnone, -⟩⟩ := answer_zero (sound_answer _ hsound (.evaluate "1"))
    (fits_answer _ (fits_build hc) (.evaluate "1")) (by rw [hconfig]) (by rw [hconfig]) ht he
  · refine ⟨c, hc, hon, _, hmem, ?_, hhit.trans (by rw [hhits])⟩
    rw [(rules_evaluated once ht).2, hconfig, Bindings.size, hagain]
    exact Nat.zero_lt_one
  · rw [Bindings.get?, hentries] at hnone
    cases hnone

theorem cache_bounded_zero : ∃ s : Session, s.Reachable ∧ s.calculator.config.cacheSize = 0 ∧
    s.calculator.cache.size ≤ 1 ∧ s.calculator.cacheHits = 0 ∧
    (s.answer (.chain "1")).2.calculator.cacheHits = 1 := by
  obtain ⟨c, e, hc, hconfig, he, hentries, hhits⟩ := exists_kept
  have h : (answer ⟨c, none⟩ (.evaluate "1")).2.Reachable :=
    ⟨_, c, [.perform 0 (.evaluate "1")], hc, .tail _ (.head _)⟩
  obtain ⟨hsize, hzero⟩ := h.cache_bounded
  rw [hconfig] at hsize hzero
  obtain ⟨-, ⟨-, hhit⟩ | ⟨hnone, -⟩⟩ := hzero rfl rfl (.chain "1") "1" e rfl he
  · exact ⟨_, h, by rw [hconfig], hsize, hhits, hhit.trans (by rw [hhits])⟩
  · rw [Bindings.get?, hentries] at hnone
    cases hnone

end Session

end Reckoner
