import Mathlib.Data.Finset.Card
import Reckoner.Proofs.Capacity
import Reckoner.Proofs.Variables

set_option autoImplicit false

namespace Reckoner

def Command.isUse : Command → Bool
  | register _ | loadExtra | freeze | clearCache | save | restore => false
  | _ => true

namespace Bindings

variable {α : Type} {name : String} {value : α} {b : Bindings α}

def names (b : Bindings α) : Finset String := (b.entries.map (·.1)).toFinset

theorem names_set (b : Bindings α) (name : String) (value : α) :
    (b.set name value).names = insert name b.names := by
  ext other
  simp only [names, List.mem_toFinset, Finset.mem_insert]
  exact mem_names_put

theorem mem_names_iff : name ∈ b.names ↔ b.get? name ≠ none := by
  rw [names, List.mem_toFinset, get?]
  induction b.entries with
  | nil => simp [find?]
  | cons e rest ih =>
    obtain ⟨k, v⟩ := e
    by_cases hk : k = name
    · simp [find?, hk]
    · simp only [List.map_cons, List.mem_cons, ih, find?, if_neg hk, Ne.symm hk, false_or]

theorem length_put_of_find? {entries : List (String × α)} (h : find? name entries = none) :
    (put name value entries).length = entries.length + 1 := by
  induction entries with
  | nil => rfl
  | cons e rest ih =>
    simp only [find?] at h
    split_ifs at h with hk
    rw [put, if_neg hk]
    split_ifs
    · rfl
    · rw [List.length_cons, ih h, List.length_cons]

theorem size_set_of_get? (h : b.get? name = none) : (b.set name value).size = b.size + 1 :=
  length_put_of_find? h

end Bindings

namespace Calculator

variable {c d : Calculator} {text : String} {e : Expression} {err : Error}

/-- A cache in use, with an entry for each name in it, which is what compilation gives. -/
structure Tidy (c : Calculator) : Prop where
  on : c.config.cache = true
  sound : c.CacheSound
  size : c.cache.size = c.cache.names.card

theorem compile_of_store (hs : d.store = c.store) : d.compile = c.compile := by
  obtain ⟨hconfig, hregistry, -, -⟩ := store_eq_iff.1 hs
  exact compile_congr hregistry hconfig

theorem Tidy.of_store (h : c.Tidy) (hs : d.store = c.store) : d.Tidy := by
  obtain ⟨hconfig, -, hcache, -⟩ := store_eq_iff.1 hs
  have hsound : d.CacheSound := by
    rw [CacheSound, hcache, compile_of_store hs]
    exact h.sound
  exact ⟨by rw [hconfig, h.on], hsound, by rw [hcache, h.size]⟩

theorem CacheSound.prepare_error (h : c.CacheSound) (he : c.compile text = .error err) :
    (c.prepare text).calculator.store = c.store := by
  obtain ⟨e, hc, -⟩ | ⟨_, -, -, hstore⟩ | ⟨e, -, hok, -⟩ := c.prepare_cases text
  · have hok := compile_of_cached h hc
    rw [he] at hok
    cases hok
  · exact hstore
  · rw [he] at hok
    cases hok

/-- Where there is room for a text, it is in the cache afterwards, and counts if it was before. -/
theorem Tidy.prepare_ok (h : c.Tidy) (he : c.compile text = .ok e)
    (hroom : (insert text c.cache.names).card ≤ c.config.cacheSize) :
    (c.prepare text).calculator.Tidy ∧
      (c.prepare text).calculator.cache.names = insert text c.cache.names ∧
      (c.prepare text).calculator.cacheHits + (insert text c.cache.names).card =
        c.cacheHits + 1 + c.cache.names.card := by
  have hsound := (h.sound.prepare text).sound
  have hon : (c.prepare text).calculator.config.cache = true := by
    have hconfig : (c.prepare text).calculator.config = c.config := (c.rules_prepare text).2
    rw [hconfig, h.on]
  obtain ⟨e', hc, hstore⟩ | ⟨_, -, herror, -⟩ | ⟨e', hnone, -, hstore⟩ := c.prepare_cases text
  · rw [cached?, if_pos h.on] at hc
    have hmem : text ∈ c.cache.names := by
      rw [Bindings.mem_names_iff, hc]
      exact Option.some_ne_none e'
    have hcache : (c.prepare text).calculator.cache = c.cache := congrArg Store.cache hstore
    have hhits : (c.prepare text).calculator.cacheHits = c.cacheHits + 1 :=
      congrArg Store.hits hstore
    rw [Finset.insert_eq_of_mem hmem, hhits, hcache]
    exact ⟨⟨hon, hsound, by rw [hcache, h.size]⟩, rfl, rfl⟩
  · rw [he] at herror
    cases herror
  · rw [cached?, if_pos h.on] at hnone
    have hnew : text ∉ c.cache.names := fun hm => Bindings.mem_names_iff.1 hm hnone
    have hcard := Finset.card_insert_of_notMem hnew
    -- With room for one more text the cache is not full.
    have hfree : ¬ c.config.cacheSize ≤ c.cache.size := by rw [h.size]; omega
    rw [store_remember h.on, if_neg hfree] at hstore
    have hcache : (c.prepare text).calculator.cache = c.cache.set text e' :=
      congrArg Store.cache hstore
    have hhits : (c.prepare text).calculator.cacheHits = c.cacheHits := congrArg Store.hits hstore
    have hnames : (c.prepare text).calculator.cache.names = insert text c.cache.names := by
      rw [hcache, Bindings.names_set]
    have hsize : (c.prepare text).calculator.cache.size =
        (c.prepare text).calculator.cache.names.card := by
      rw [hnames, hcard, hcache, Bindings.size_set_of_get? hnone, h.size]
    exact ⟨⟨hon, hsound, hsize⟩, hnames, by rw [hhits, hcard]; omega⟩

theorem hits_le_prepare (c : Calculator) (text : String) :
    c.cacheHits ≤ (c.prepare text).calculator.store.hits := by
  obtain ⟨e, -, hstore⟩ | ⟨err, -, -, hstore⟩ | ⟨e, -, -, hstore⟩ := c.prepare_cases text
  · rw [hstore]
    exact Nat.le_succ _
  · rw [hstore]
    exact Nat.le_refl _
  · rw [hstore, remember]
    split_ifs <;> exact Nat.le_refl _

end Calculator

namespace Session

variable {s : Session} {command : Command} {commands : List Command} {text : String}

def run (s : Session) (commands : List Command) : Session :=
  commands.foldl (fun s command => (s.answer command).2) s

/-- The texts that these commands evaluate, as often as they do, but for those that can not be
compiled. -/
def compiled (s : Session) (commands : List Command) : List String :=
  (commands.filterMap Command.evaluated?).filter fun text => (s.calculator.compile text).isOk

theorem compiled_congr {t : Session} (h : t.calculator.compile = s.calculator.compile)
    (commands : List Command) : t.compiled commands = s.compiled commands := by
  rw [compiled, h, compiled]

theorem compiled_idle (h : command.evaluated? = none) :
    s.compiled (command :: commands) = s.compiled commands := by
  rw [compiled, List.filterMap_cons_none h, compiled]

theorem compiled_error {err : Error} (h : command.evaluated? = some text)
    (he : s.calculator.compile text = .error err) :
    s.compiled (command :: commands) = s.compiled commands := by
  have hnot : ¬ (s.calculator.compile text).isOk = true := by rw [he]; exact Bool.false_ne_true
  rw [compiled, List.filterMap_cons_some h, List.filter_cons, if_neg hnot, compiled]

theorem compiled_ok {e : Expression} (h : command.evaluated? = some text)
    (he : s.calculator.compile text = .ok e) :
    s.compiled (command :: commands) = text :: s.compiled commands := by
  have hok : (s.calculator.compile text).isOk = true := by rw [he]; rfl
  rw [compiled, List.filterMap_cons_some h, List.filter_cons, if_pos hok, compiled]

theorem store_use (s : Session) (hu : command.isUse = true) (h : command.evaluated? = none) :
    (s.answer command).2.calculator.store = s.calculator.store := by
  cases command with
  | tokenize text => rfl
  | compile text => rfl
  | setVariable name value => rfl
  | setVariables entries clear => cases clear <;> rfl
  | removeVariable name => rfl
  | removeAllVariables => rfl
  | setTrace on => rfl
  | evaluate text => cases h
  | evaluateValue text => cases h
  | chain text => cases h
  | chainAs text name => cases h
  | _ => cases hu

theorem unused_or_compiled (hs : s.calculator.CacheSound) (hu : command.isUse = true) :
    (s.compiled (command :: commands) = s.compiled commands ∧
        (s.answer command).2.calculator.store = s.calculator.store) ∨
      ∃ text e, command.evaluated? = some text ∧ s.calculator.compile text = .ok e := by
  cases ht : command.evaluated? with
  | none => exact .inl ⟨compiled_idle ht, s.store_use hu ht⟩
  | some text =>
    cases he : s.calculator.compile text with
    | error err =>
      exact .inl ⟨compiled_error ht he, (s.store_evaluated ht).trans (hs.prepare_error he)⟩
    | ok e => exact .inr ⟨text, e, rfl, he⟩

theorem answer_compiled {e : Expression} (h : s.calculator.Tidy)
    (ht : command.evaluated? = some text) (he : s.calculator.compile text = .ok e)
    (hroom : (insert text s.calculator.cache.names).card ≤ s.calculator.config.cacheSize) :
    (s.answer command).2.calculator.Tidy ∧
      (s.answer command).2.calculator.cache.names = insert text s.calculator.cache.names ∧
      (s.answer command).2.calculator.cacheHits + (insert text s.calculator.cache.names).card =
        s.calculator.cacheHits + 1 + s.calculator.cache.names.card := by
  obtain ⟨htidy, hnames, hhits⟩ := h.prepare_ok he hroom
  have hstore := s.store_evaluated ht
  obtain ⟨-, -, hcache, hafter⟩ := Calculator.store_eq_iff.1 hstore
  rw [← hcache] at hnames
  rw [← hafter] at hhits
  exact ⟨htidy.of_store hstore, hnames, hhits⟩

/-- Each text that is compiled counts, but for the first time that it comes. -/
theorem cacheHits_run (h : s.calculator.Tidy) (hu : ∀ command ∈ commands, command.isUse = true)
    (hroom : (s.calculator.cache.names ∪ (s.compiled commands).toFinset).card ≤
      s.calculator.config.cacheSize) :
    (s.run commands).calculator.cacheHits +
        (s.calculator.cache.names ∪ (s.compiled commands).toFinset).card =
      s.calculator.cacheHits + (s.compiled commands).length + s.calculator.cache.names.card := by
  induction commands generalizing s with
  | nil => simp [run, compiled]
  | cons command rest ih =>
    obtain ⟨hfirst, hrest⟩ := List.forall_mem_cons.1 hu
    obtain ⟨hsame, hstore⟩ | ⟨text, e, ht, he⟩ := unused_or_compiled h.sound hfirst
    · obtain ⟨hconfig, -, hcache, hhits⟩ := Calculator.store_eq_iff.1 hstore
      have hrun := ih (h.of_store hstore) hrest
      rw [compiled_congr (Calculator.compile_of_store hstore), hconfig, hcache, hhits] at hrun
      rw [hsame] at hroom ⊢
      exact hrun hroom
    · rw [compiled_ok ht he, List.toFinset_cons, Finset.union_insert, ← Finset.insert_union]
        at hroom ⊢
      have hfits := (Finset.card_le_card Finset.subset_union_left).trans hroom
      obtain ⟨htidy, hnames, hhits⟩ := answer_compiled h ht he hfits
      have hrun := ih htidy hrest
      rw [compiled_congr (s.compile_evaluated ht), hnames, (s.rules_evaluated ht).2] at hrun
      have hcount := hrun hroom
      simp only [run, List.foldl_cons, List.length_cons] at hcount ⊢
      omega

theorem cacheHits_answer_le (s : Session) (h : command ≠ .restore) :
    s.calculator.cacheHits ≤ (s.answer command).2.calculator.cacheHits := by
  cases ht : command.evaluated? with
  | none =>
    obtain hidle | ⟨hrestore, -⟩ := s.store_idle ht
    · exact hidle.hits.ge
    · exact absurd hrestore h
  | some text =>
    have hprepare := s.calculator.hits_le_prepare text
    rwa [← s.store_evaluated ht] at hprepare

theorem cacheHits_le_run (s : Session) (h : ∀ command ∈ commands, command ≠ .restore) :
    s.calculator.cacheHits ≤ (s.run commands).calculator.cacheHits := by
  induction commands generalizing s with
  | nil => exact Nat.le_refl _
  | cons command rest ih =>
    obtain ⟨hfirst, hrest⟩ := List.forall_mem_cons.1 h
    exact (s.cacheHits_answer_le hfirst).trans (ih _ hrest)

theorem tidy_empty (hon : s.calculator.config.cache = true) (hempty : s.calculator.cache = {}) :
    s.calculator.Tidy := by
  refine ⟨hon, ?_, ?_⟩
  · rw [Calculator.CacheSound, hempty]
    exact List.forall_mem_nil _
  · rw [hempty]
    rfl

/-- While all texts fit into an empty cache, all that is compiled counts, but for the first time of
each text. Other than by going back to the copy the count does not decrease, and what can not be
compiled leaves it. -/
theorem cacheHits_counted :
    (∀ (s : Session) (commands : List Command), s.calculator.config.cache = true →
      s.calculator.cache = {} → (∀ command ∈ commands, command.isUse = true) →
      (s.compiled commands).toFinset.card ≤ s.calculator.config.cacheSize →
      (s.run commands).calculator.cacheHits + (s.compiled commands).toFinset.card =
        s.calculator.cacheHits + (s.compiled commands).length) ∧
    (∀ (s : Session) (commands : List Command), (∀ command ∈ commands, command ≠ .restore) →
      s.calculator.cacheHits ≤ (s.run commands).calculator.cacheHits) ∧
    ∀ (s : Session) (command : Command) (text : String) (err : Error), s.Reachable →
      command.evaluated? = some text → s.calculator.compile text = .error err →
      (s.answer command).2.calculator.cacheHits = s.calculator.cacheHits := by
  refine ⟨fun s commands hon hempty hu hroom => ?_, fun s _ => s.cacheHits_le_run,
    fun s command text err h ht he => ?_⟩
  · have hnone : s.calculator.cache.names = ∅ := by rw [hempty]; rfl
    have hcount := cacheHits_run (tidy_empty hon hempty) hu
    rw [hnone, Finset.empty_union, Finset.card_empty] at hcount
    exact hcount hroom
  · have hstore := (s.store_evaluated ht).trans (h.sound.calculator.prepare_error he)
    exact congrArg Store.hits hstore

/-- A text that is evaluated three times is taken from the cache twice, and one without its second
quotation mark never. -/
theorem cacheHits_counted_thrice : ∃ s : Session, s.Reachable ∧ ∃ t,
    t = s.run [.evaluate "1", .setTrace true, .chain "1", .evaluateValue "1"] ∧
    s.calculator.cacheHits = 0 ∧ t.calculator.cacheHits = 2 ∧
    2 ≤ (t.run [.clearCache, .evaluate "1"]).calculator.cacheHits ∧
    (s.answer (.evaluate "\"")).2.calculator.cacheHits = 0 := by
  let s : Session := ⟨.build {} (.default {}), none⟩
  let commands : List Command := [.evaluate "1", .setTrace true, .chain "1", .evaluateValue "1"]
  have hs : s.Reachable := ⟨.new, _, [], rfl, List.mem_singleton_self _⟩
  obtain ⟨e, he⟩ : ∃ e, s.calculator.compile "1" = .ok e := compile_one {}
  have hok : (s.calculator.compile "1").isOk = true := by rw [he]; rfl
  have hcompiled : s.compiled commands = ["1", "1", "1"] := by
    simp only [compiled, commands, Command.evaluated?, List.filterMap_cons, List.filterMap_nil,
      List.filter_cons, hok, if_true, List.filter_nil]
  have herror : s.calculator.compile "\"" = .error (.unknownToken "\"") := by
    have hlexemes : (Registry.default {}).lexemes "\"" = .error (.unknownToken "\"") := by
      rw [lexemes_default, scan_unclosed rfl rfl]
      rfl
    simp only [s, Calculator.compile, Expression.compile, Calculator.build, Registry.tokens,
      hlexemes]
  obtain ⟨hcount, hle, hrefused⟩ := cacheHits_counted
  have hsum := hcount s commands rfl rfl (by decide)
  rw [hcompiled] at hsum
  have htwice : (s.run commands).calculator.cacheHits = 2 := Nat.succ.inj (hsum (by decide))
  have hmore := hle (s.run commands) [.clearCache, .evaluate "1"] (by simp)
  exact ⟨s, hs, _, rfl, rfl, htwice, htwice ▸ hmore, hrefused s _ _ _ hs rfl herror⟩

end Session

end Reckoner
