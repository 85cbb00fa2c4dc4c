import Reckoner.Proofs.Transparency

/-! Operations that fail, and frozen registries. A registration that is refused leaves all as it
was. An evaluation that fails leaves all but the cache and the trace, so that what is done after it
goes on as if it had not been tried. A frozen registry refuses every registration and reads each
text as it did when it was frozen.
-/

set_option autoImplicit false

namespace Reckoner

namespace PlainCalculator

def untraced (c : PlainCalculator) : PlainCalculator := { c with trace := [] }

def mute {α : Type} (o : Except Error α × PlainCalculator) : Except Error α × PlainCalculator :=
  (o.1, o.2.untraced)

section

variable (c : PlainCalculator) (text : String)

theorem evaluateValue_mute :
    mute (c.untraced.evaluateValue text) = mute (c.evaluateValue text) := by
  have hc : c.untraced.compile text = c.compile text := rfl
  simp only [evaluateValue, hc]
  cases c.compile text <;> rfl

theorem evaluate_mute : mute (c.untraced.evaluate text) = mute (c.evaluate text) := by
  have hv := c.evaluateValue_mute text
  simp only [evaluate]
  generalize c.untraced.evaluateValue text = o at hv
  generalize c.evaluateValue text = o' at hv
  obtain ⟨a, d⟩ := o
  obtain ⟨a', d'⟩ := o'
  obtain ⟨rfl, hd⟩ := Prod.mk.inj hv
  cases a <;> exact Prod.ext rfl hd

theorem chainAs_mute (name : String) :
    mute (c.untraced.chainAs text name) = mute (c.chainAs text name) := by
  have hx := c.evaluate_mute text
  simp only [chainAs]
  generalize c.untraced.evaluate text = o at hx
  generalize c.evaluate text = o' at hx
  obtain ⟨a, d⟩ := o
  obtain ⟨a', d'⟩ := o'
  obtain ⟨rfl, hd⟩ := Prod.mk.inj hx
  cases a with
  | error e => exact Prod.ext rfl hd
  | ok x =>
    have hset := congrArg
      (fun d => { d with bindings := d.bindings.set name x, result := some x }) hd
    exact Prod.ext rfl hset

theorem register_mute (g : Registration) :
    mute (c.untraced.register g) = mute (c.register g) := by
  have hc : c.untraced.registry = c.registry := rfl
  simp only [register, hc]
  cases c.registry.register g <;> rfl

theorem evaluateValue_untraced : (c.evaluateValue text).2.untraced = c.untraced := by
  simp only [evaluateValue]
  cases c.compile text <;> rfl

theorem evaluate_untraced : (c.evaluate text).2.untraced = c.untraced := by
  rw [← c.evaluateValue_untraced text]
  simp only [evaluate]
  obtain ⟨_ | v, d⟩ := c.evaluateValue text <;> rfl

end

section

variable {c : PlainCalculator} {e : Error}

theorem chainAs_failed {text name : String} (h : (c.chainAs text name).1 = .error e) :
    (c.chainAs text name).2.untraced = c.untraced := by
  rw [← c.evaluate_untraced text]
  simp only [chainAs] at h ⊢
  generalize c.evaluate text = o at h
  obtain ⟨_ | x, d⟩ := o
  · rfl
  · cases h

theorem register_failed {g : Registration} (h : (c.register g).1 = .error e) :
    (c.register g).2 = c := by
  simp only [register] at h ⊢
  cases hg : c.registry.register g with
  | error e => rfl
  | ok r =>
    rw [hg] at h
    cases h

theorem loadExtra_failed (h : c.loadExtra.1 = .error e) : c.loadExtra.2 = c := by
  simp only [loadExtra, Registry.registerAll_comparisons] at h ⊢
  cases hf : c.registry.frozen with
  | true => rfl
  | false =>
    rw [hf] at h
    cases h

end

end PlainCalculator

theorem Registry.freeze_frozen {r : Registry} (h : r.frozen = true) : r.freeze = r := by
  cases r
  cases h
  rfl

def Command.registers : Command → Bool
  | register _ | loadExtra => true
  | _ => false

namespace PlainSession

def untraced (s : PlainSession) : PlainSession := ⟨s.calculator.untraced, s.saved.map (·.untraced)⟩

def mute (x : Except Error Reply × PlainSession) : Except Error Reply × PlainSession :=
  (x.1, x.2.untraced)

theorem untraced_untraced (s : PlainSession) : s.untraced.untraced = s.untraced := by
  obtain ⟨c, _ | d⟩ := s <;> rfl

variable (s : PlainSession)

theorem mute_after {α : Type} (reply : α → Reply) (o : Except Error α × PlainCalculator) :
    mute (s.after reply o) = s.untraced.after reply (PlainCalculator.mute o) := rfl

theorem after_mute {α : Type} (reply : α → Reply) {o o' : Except Error α × PlainCalculator}
    (h : PlainCalculator.mute o = PlainCalculator.mute o') :
    mute (s.untraced.after reply o) = mute (s.after reply o') := by
  rw [mute_after, mute_after, untraced_untraced, h]

theorem change_mute {c c' : PlainCalculator} (h : c.untraced = c'.untraced) :
    mute (s.untraced.change c) = mute (s.change c') := by
  have hboth : PlainSession.mk c.untraced s.untraced.untraced.saved =
      ⟨c'.untraced, s.untraced.saved⟩ := by rw [h, untraced_untraced]
  exact Prod.ext rfl hboth

theorem answer_mute (command : Command) :
    mute (s.untraced.answer command) = mute (s.answer command) := by
  have hsame : s.untraced.untraced = s.untraced := s.untraced_untraced
  cases command with
  | tokenize text => exact Prod.ext rfl hsame
  | compile text => exact Prod.ext rfl hsame
  | evaluate text => exact s.after_mute _ (s.calculator.evaluate_mute text)
  | evaluateValue text => exact s.after_mute _ (s.calculator.evaluateValue_mute text)
  | chain text => exact s.after_mute _ (s.calculator.chainAs_mute text chainVariable)
  | chainAs text name => exact s.after_mute _ (s.calculator.chainAs_mute text name)
  | register g => exact s.after_mute _ (s.calculator.register_mute g)
  | loadExtra => exact s.after_mute (fun _ => .done) rfl
  | clearCache => exact Prod.ext rfl hsame
  | save => rfl
  | restore =>
    obtain ⟨c, _ | d⟩ := s <;> rfl
  | freeze => exact s.change_mute rfl
  | setVariable name value => exact s.change_mute rfl
  | setVariables entries clear => exact s.change_mute rfl
  | removeVariable name => exact s.change_mute rfl
  | removeAllVariables => exact s.change_mute rfl
  | setTrace on => exact s.change_mute rfl

variable {s}

theorem after_failed {α : Type} {reply : α → Reply} {o : Except Error α × PlainCalculator}
    (ho : ∀ e, o.1 = .error e → o.2.untraced = s.calculator.untraced) {e : Error}
    (h : (s.after reply o).1 = .error e) : (s.after reply o).2.untraced = s.untraced := by
  obtain ⟨_ | x, c⟩ := o
  · simp only [after, untraced, ho _ rfl]
  · cases h

/-- A command that fails leaves all but the trace. -/
theorem answer_failed {command : Command} {e : Error} (h : (s.answer command).1 = .error e) :
    (s.answer command).2.untraced = s.untraced := by
  cases command with
  | tokenize text => rfl
  | compile text => rfl
  | evaluate text => exact after_failed (fun _ _ => s.calculator.evaluate_untraced text) h
  | evaluateValue text =>
    exact after_failed (fun _ _ => s.calculator.evaluateValue_untraced text) h
  | chain text => exact after_failed (fun _ => PlainCalculator.chainAs_failed) h
  | chainAs text name => exact after_failed (fun _ => PlainCalculator.chainAs_failed) h
  | register g =>
    exact after_failed (fun _ hg => by rw [PlainCalculator.register_failed hg]) h
  | loadExtra =>
    exact after_failed (fun _ hl => by rw [PlainCalculator.loadExtra_failed hl]) h
  | _ => cases h

end PlainSession

section

variable {r : Registry} {config : Config}

/-- The registry and the limit with which texts are compiled. -/
structure PlainCalculator.Reads (r : Registry) (config : Config) (c : PlainCalculator) : Prop where
  registry : c.registry = r
  config : c.config = config

structure PlainSession.Reads (r : Registry) (config : Config) (s : PlainSession) : Prop where
  calculator : s.calculator.Reads r config
  saved : ∀ c ∈ s.saved, c.Reads r config

namespace PlainCalculator.Reads

variable {c c' : PlainCalculator}

theorem of_untraced (h : c.Reads r config) (hc : c'.untraced = c.untraced) : c'.Reads r config :=
  ⟨(congrArg PlainCalculator.registry hc).trans h.registry,
    (congrArg PlainCalculator.config hc).trans h.config⟩

theorem chainAs (h : c.Reads r config) (text name : String) :
    (c.chainAs text name).2.Reads r config := by
  have hx := h.of_untraced (c.evaluate_untraced text)
  simp only [PlainCalculator.chainAs]
  generalize c.evaluate text = o at hx
  obtain ⟨_ | x, d⟩ := o
  · exact hx
  · exact ⟨hx.registry, hx.config⟩

theorem register (h : c.Reads r config) (hf : r.frozen = true) (g : Registration) :
    (c.register g) = (.error (.config "registry is frozen"), c) := by
  simp only [PlainCalculator.register, h.registry, Registry.register_frozen hf]

theorem loadExtra (h : c.Reads r config) (hf : r.frozen = true) :
    c.loadExtra = (.error (.config "registry is frozen"), c) := by
  obtain ⟨rfl, rfl⟩ := h
  simp only [PlainCalculator.loadExtra, Registry.registerAll_comparisons, hf, if_true]

end PlainCalculator.Reads

namespace PlainSession.Reads

variable {s : PlainSession}

theorem answer (h : s.Reads r config) (hf : r.frozen = true) (command : Command) :
    (s.answer command).2.Reads r config := by
  have hc := h.calculator
  cases command with
  | tokenize text => exact h
  | compile text => exact h
  | evaluate text => exact ⟨hc.of_untraced (s.calculator.evaluate_untraced text), h.saved⟩
  | evaluateValue text =>
    exact ⟨hc.of_untraced (s.calculator.evaluateValue_untraced text), h.saved⟩
  | chain text => exact ⟨hc.chainAs text chainVariable, h.saved⟩
  | chainAs text name => exact ⟨hc.chainAs text name, h.saved⟩
  | register g =>
    simp only [PlainSession.answer, hc.register hf g]
    exact h
  | loadExtra =>
    simp only [PlainSession.answer, hc.loadExtra hf]
    exact h
  | freeze => exact ⟨⟨by rw [← Registry.freeze_frozen hf, ← hc.registry]; rfl, hc.config⟩, h.saved⟩
  | save =>
    refine ⟨hc, fun c hs => ?_⟩
    cases hs
    exact hc
  | restore =>
    obtain ⟨c, _ | d⟩ := s
    · exact ⟨hc, h.saved⟩
    · exact ⟨h.saved d rfl, h.saved⟩
  | _ => exact ⟨⟨hc.registry, hc.config⟩, h.saved⟩

theorem refuses (h : s.Reads r config) (hf : r.frozen = true) {command : Command}
    (hc : command.registers = true) :
    (s.answer command).1 = .error (.config "registry is frozen") := by
  cases command with
  | register g =>
    simp only [PlainSession.answer, h.calculator.register hf g]
    rfl
  | loadExtra =>
    simp only [PlainSession.answer, h.calculator.loadExtra hf]
    rfl
  | _ => cases hc

end PlainSession.Reads

end

namespace Session

def Reachable (s : Session) : Prop :=
  ∃ origin c moves, Origin.build origin = .ok c ∧ s ∈ visited answer [⟨c, none⟩] moves

theorem Reachable.sound {s : Session} (h : s.Reachable) : s.Sound := by
  obtain ⟨origin, c, moves, hc, hs⟩ := h
  exact visited_keeps transparent.keeps (Origin.sound_build hc) moves s hs

/-- All but what the caches, the hit counts and the traces hold. -/
def core (s : Session) : PlainSession := s.plain.untraced

/-- Sessions seen without caches and traces. -/
def muted : Simulation answer fun s command => PlainSession.mute (s.answer command) where
  view := core
  Invariant := Sound
  replies s h command := by
    rw [core, PlainSession.answer_mute, (h.answer command).1]
    rfl
  keeps := sound_answer

/-- A reply, with the core of each session after it. -/
def report (x : Except Error Reply × List Session) : Except Error Reply × List PlainSession :=
  (x.1, x.2.map core)

variable {s t : Session}

theorem play_report (hs : s.Sound) (ht : t.Sound) (h : s.core = t.core) (moves : List Move) :
    (play answer [s] moves).map report = (play answer [t] moves).map report := by
  have hs' := muted.view_play (List.forall_mem_singleton.2 hs) moves
  have ht' := muted.view_play (List.forall_mem_singleton.2 ht) moves
  have hview : [s].map muted.view = [t].map muted.view := congrArg (fun k => [k]) h
  exact hs'.symm.trans ((congrArg (fun ks => play _ ks moves) hview).trans ht')

theorem answer_refused {command : Command} {e : Error} (hc : command.registers = true)
    (h : (s.answer command).1 = .error e) : (s.answer command).2 = s := by
  cases command with
  | register g =>
    simp only [answer, perform, Session.after, Calculator.register] at h ⊢
    cases hg : s.calculator.registry.register g with
    | error e => rfl
    | ok r =>
      rw [hg] at h
      cases h
  | loadExtra =>
    simp only [answer, perform, Session.after, Calculator.loadExtra,
      Registry.registerAll_comparisons] at h ⊢
    cases hf : s.calculator.registry.frozen with
    | true => rfl
    | false =>
      rw [hf] at h
      cases h
  | _ => cases hc

theorem Sound.answer_failed (hs : s.Sound) {command : Command} {e : Error}
    (h : (s.answer command).1 = .error e) : (s.answer command).2.core = s.core := by
  have hplain := (hs.answer command).1
  have hp : (s.plain.answer command).1 = .error e := by rw [hplain, h]
  have hu := PlainSession.answer_failed hp
  rwa [hplain] at hu

/-- What a frozen registry reads, it reads along every run. -/
theorem keeps_reads {r : Registry} {config : Config} (hf : r.frozen = true) (hs : s.Sound)
    (hr : s.plain.Reads r config) (moves : List Move) :
    ∀ t ∈ visited answer [s] moves, t.Sound ∧ t.plain.Reads r config := by
  refine visited_keeps (fun t ht command => ?_) (List.forall_mem_singleton.2 ⟨hs, hr⟩) moves
  obtain ⟨hanswer, hsound⟩ := ht.1.answer command
  have hreads := ht.2.answer hf command
  rw [hanswer] at hreads
  exact ⟨hsound, hreads⟩

/-- A command that fails changes nothing that a later one reads, and what is frozen stays so, with
what its texts mean. -/
theorem Reachable.failed_and_frozen (hs : s.Reachable) :
    (∀ command e, (s.answer command).1 = .error e →
      (command.registers = true → (s.answer command).2 = s) ∧
      (s.answer command).2.core = s.core ∧
      ∀ moves, (play answer [(s.answer command).2] moves).map report =
        (play answer [s] moves).map report) ∧
    (s.calculator.registry.frozen = true →
      ∀ moves, ∀ t ∈ visited answer [{ s with saved := none }] moves,
        (∀ command, command.registers = true →
          (t.answer command).1 = .error (.config "registry is frozen")) ∧
        ∀ text, t.calculator.tokens text = s.calculator.tokens text ∧
          t.calculator.compile text = s.calculator.compile text) := by
  have hsound := hs.sound
  constructor
  · intro command e h
    have hcore := hsound.answer_failed h
    have hnext := (hsound.answer command).2
    exact ⟨fun hc => answer_refused hc h, hcore, play_report hnext hsound hcore⟩
  · intro hf moves t ht
    have halone : ({ s with saved := none } : Session).Sound :=
      ⟨hsound.calculator, fun _ h => nomatch h⟩
    have hreads : (plain { s with saved := none }).Reads s.calculator.registry
        s.calculator.config := ⟨⟨rfl, rfl⟩, fun _ h => nomatch h⟩
    obtain ⟨htsound, htreads⟩ := keeps_reads hf halone hreads moves t ht
    have hregistry : t.calculator.registry = s.calculator.registry := htreads.calculator.registry
    have hconfig : t.calculator.config = s.calculator.config := htreads.calculator.config
    refine ⟨fun command hc => ?_, fun text => ⟨?_, ?_⟩⟩
    · rw [← htreads.refuses hf hc, (htsound.answer command).1]
    · rw [Calculator.tokens, hregistry, Calculator.tokens]
    · rw [Calculator.compile, hregistry, hconfig, Calculator.compile]

theorem failed_and_frozen_extra :
    ∃ s : Session, s.Reachable ∧ s.calculator.registry.frozen = true ∧
      (s.answer .loadExtra).1 = .error (.config "registry is frozen") ∧
      (s.answer .loadExtra).2 = s ∧
      (s.answer (.register (.operator "plus" (.literal "+") Builtin.minus))).1 =
        .error (.config "registry is frozen") := by
  let s : Session := ⟨(Calculator.build {} (.default {})).freeze, none⟩
  have hs : s.Reachable :=
    ⟨.new, _, [.perform 0 .freeze], rfl, .tail _ (.head _)⟩
  have hl : (s.answer .loadExtra).1 = .error (.config "registry is frozen") := rfl
  have hfailed := (Reachable.failed_and_frozen hs).1 .loadExtra _ hl
  have hfrozen := (Reachable.failed_and_frozen hs).2 rfl [] s (.head _)
  exact ⟨s, hs, rfl, hl, hfailed.1 rfl, hfrozen.1 (.register _) rfl⟩

end Session

end Reckoner
