import Reckoner.Session

/-! Runs of calculators. Any number of sessions stand side by side, each command goes to one of
them, and a copy of one can be set beside the others. To go back to a copy is to go on with it. What
is shown of one command holds along every run.
-/

set_option autoImplicit false

namespace Reckoner

inductive Origin where
  | new
  | standard (config : Config)
  | blank (config : Config)

def Origin.build : Origin → Except Error Calculator
  | new => .ok (Calculator.build {} (.default {}))
  | standard config => Calculator.standard config
  | blank config => Calculator.blank config

namespace Session

def answer (s : Session) (c : Command) : Except Error Reply × Session :=
  ((s.perform c).1, (s.perform c).2.1)

end Session

inductive Move where
  | perform (index : Nat) (command : Command)
  | copy (index : Nat)

section

variable {κ : Type} (answer : κ → Command → Except Error Reply × κ)

def move (ks : List κ) : Move → Except Error Reply × List κ
  | .perform i command =>
    match ks[i]? with
    | none => (.ok .done, ks)
    | some k => ((answer k command).1, ks.set i (answer k command).2)
  | .copy i =>
    match ks[i]? with
    | none => (.ok .done, ks)
    | some k => (.ok .done, ks ++ [k])

def play (ks : List κ) : List Move → List (Except Error Reply × List κ)
  | [] => []
  | m :: ms => move answer ks m :: play (move answer ks m).2 ms

def visited (ks : List κ) (ms : List Move) : List κ := ks ++ (play answer ks ms).flatMap (·.2)

variable {answer} {ks : List κ} {I : κ → Prop}

theorem move_keeps (hstep : ∀ k, I k → ∀ c, I (answer k c).2) (h : ∀ k ∈ ks, I k) (m : Move) :
    ∀ k ∈ (move answer ks m).2, I k := by
  cases m with
  | perform i command =>
    simp only [move]
    cases hi : ks[i]? with
    | none => exact h
    | some k =>
      intro x hx
      rcases List.mem_or_eq_of_mem_set hx with hx | rfl
      · exact h x hx
      · exact hstep k (h k (List.mem_of_getElem? hi)) command
  | copy i =>
    simp only [move]
    cases hi : ks[i]? with
    | none => exact h
    | some k =>
      intro x hx
      rcases List.mem_append.1 hx with hx | hx
      · exact h x hx
      · rw [List.mem_singleton.1 hx]
        exact h k (List.mem_of_getElem? hi)

theorem play_keeps (hstep : ∀ k, I k → ∀ c, I (answer k c).2) (h : ∀ k ∈ ks, I k)
    (ms : List Move) : ∀ x ∈ play answer ks ms, ∀ k ∈ x.2, I k := by
  induction ms generalizing ks with
  | nil => exact List.forall_mem_nil _
  | cons m ms ih =>
    have hm := move_keeps hstep h m
    exact List.forall_mem_cons.2 ⟨hm, ih hm⟩

/-- What each command keeps holds of all that a run goes through. -/
theorem visited_keeps (hstep : ∀ k, I k → ∀ c, I (answer k c).2) (h : ∀ k ∈ ks, I k)
    (ms : List Move) : ∀ k ∈ visited answer ks ms, I k := by
  intro k hk
  rcases List.mem_append.1 hk with hk | hk
  · exact h k hk
  · obtain ⟨x, hx, hk⟩ := List.mem_flatMap.1 hk
    exact play_keeps hstep h ms x hx k hk

end

/-- What is seen of a state answers as the state does, as long as an invariant holds. -/
structure Simulation {κ κ' : Type} (answer : κ → Command → Except Error Reply × κ)
    (answer' : κ' → Command → Except Error Reply × κ') where
  view : κ → κ'
  Invariant : κ → Prop
  replies : ∀ k, Invariant k → ∀ c, answer' (view k) c = ((answer k c).1, view (answer k c).2)
  keeps : ∀ k, Invariant k → ∀ c, Invariant (answer k c).2

namespace Simulation

variable {κ κ' : Type} {answer : κ → Command → Except Error Reply × κ}
  {answer' : κ' → Command → Except Error Reply × κ'} (S : Simulation answer answer')
  {ks : List κ}

theorem view_move (h : ∀ k ∈ ks, S.Invariant k) (m : Move) :
    move answer' (ks.map S.view) m =
      ((move answer ks m).1, (move answer ks m).2.map S.view) := by
  cases m with
  | perform i command =>
    simp only [move, List.getElem?_map]
    cases hi : ks[i]? with
    | none => rfl
    | some k =>
      have hk := S.replies k (h k (List.mem_of_getElem? hi)) command
      simp only [Option.map_some, hk, List.map_set]
  | copy i =>
    simp only [move, List.getElem?_map]
    cases hi : ks[i]? with
    | none => rfl
    | some k => simp only [Option.map_some, List.map_append, List.map_cons, List.map_nil]

theorem view_play (h : ∀ k ∈ ks, S.Invariant k) (ms : List Move) :
    play answer' (ks.map S.view) ms =
      (play answer ks ms).map fun x => (x.1, x.2.map S.view) := by
  induction ms generalizing ks with
  | nil => rfl
  | cons m ms ih =>
    simp only [play, List.map_cons, S.view_move h m, ih (move_keeps S.keeps h m)]

end Simulation

end Reckoner
