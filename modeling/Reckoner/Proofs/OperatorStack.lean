import Mathlib.Data.List.Chain
import Reckoner.Proofs.Isolation

/-! The stack of the conversion. Operators, functions and brackets wait on it, no operator above one
that it would have been applied after, and the depth counts the brackets. A conversion with tokens
of any kind on its stack comes to the same states, and never closes a bracket at depth zero.
-/

set_option autoImplicit false

namespace Reckoner

namespace Token

def isWaiting : Token → Bool
  | operator _ | function _ | leftBracket => true
  | _ => false

end Token

/-- The state of a conversion that keeps tokens of any kind on its stack. -/
structure Stacking where
  /-- What is written, last first. -/
  output : List Token := []
  stack : List Token := []
  depth : Nat := 0
  previous : Option Token := none

namespace Stacking

def atCall : List Token → Bool
  | .function _ :: _ => true
  | _ => false

/-- Pops and writes all up to the nearest left bracket, which is popped too. -/
def unwind : List Token → List Token → Option (List Token × List Token)
  | [], _ => none
  | .leftBracket :: stack, output => some (stack, output)
  | t :: stack, output => unwind stack (t :: output)

def release (o : Operator) : List Token → List Token → List Token × List Token
  | .operator p :: stack, output =>
    if o.popsBefore p then release o stack (.operator p :: output)
    else (.operator p :: stack, output)
  | stack, output => (stack, output)

def drain : List Token → List Token → Except Error (List Token)
  | [], output => .ok output.reverse
  | .leftBracket :: _, _ | .rightBracket :: _, _ => .error .mismatchedBracket
  | t :: stack, output => drain stack (t :: output)

def leftBracket (limit : Nat) (m : Stacking) : Except Error Stacking :=
  if limit < m.depth + 1 then .error (.tooDeep limit)
  else .ok {
    output := if atCall m.stack then .leftBracket :: m.output else m.output
    stack := .leftBracket :: m.stack
    depth := m.depth + 1
    previous := some .leftBracket }

def comma (m : Stacking) : Except Error Stacking :=
  if opensArgument m.previous then .error .emptyArgument
  else
    match unwind m.stack m.output with
    | none => .error .commaOutsideBrackets
    | some (stack, output) =>
      if atCall stack then
        .ok { m with output, stack := .leftBracket :: stack, previous := some .comma }
      else .error .commaOutsideArguments

def close (depth : Nat) (stack output : List Token) : Option Stacking :=
  match depth, stack with
  | 0, _ => none
  | depth + 1, .function f :: stack =>
    some ⟨.function f :: output, stack, depth, some .rightBracket⟩
  | depth + 1, stack => some ⟨output, stack, depth, some .rightBracket⟩

def rightBracket (m : Stacking) : Option (Except Error Stacking) :=
  if isComma m.previous then some (.error .emptyArgument)
  else
    match unwind m.stack m.output with
    | none => some (.error .mismatchedBracket)
    | some (stack, output) => (close m.depth stack output).map .ok

def operator (m : Stacking) (o : Operator) : Stacking :=
  let (stack, output) := release o m.stack m.output
  { m with output, stack := .operator o :: stack, previous := some (.operator o) }

/-- The state after a token, `none` where the depth would fall below zero. -/
def step (limit : Nat) (m : Stacking) : Token → Option (Except Error Stacking)
  | .function f => some (.ok { m with
      stack := .function f :: m.stack, previous := some (.function f) })
  | .operator o => some (.ok (m.operator o))
  | .leftBracket => some (m.leftBracket limit)
  | .comma => some m.comma
  | .rightBracket => m.rightBracket
  | t => some (.ok { m with output := t :: m.output, previous := some t })

def run (limit : Nat) (m : Stacking) : List Token → Option (Except Error Stacking)
  | [] => some (.ok m)
  | t :: ts =>
    match m.step limit t with
    | none => none
    | some (.error e) => some (.error e)
    | some (.ok m) => m.run limit ts

def convert (limit : Nat) (ts : List Token) : Option (Except Error (List Token)) :=
  match run limit {} ts with
  | none => none
  | some (.error e) => some (.error e)
  | some (.ok m) => some (drain m.stack m.output)

def ofConversion (s : Conversion) : Stacking :=
  ⟨s.output, s.waiting.map Waiting.token, s.depth, s.previous⟩

structure Invariant (limit : Nat) (m : Stacking) : Prop where
  waiting : ∀ t ∈ m.stack, t.isWaiting = true
  depth : m.depth = openings m.stack
  bound : m.depth ≤ limit
  /-- The lower of two adjacent operators is not applied before the upper one comes. -/
  kept : ∀ above below q p, m.stack = above ++ .operator q :: .operator p :: below →
    q.popsBefore p = false
  rising : ∀ above below q p, m.stack = above ++ .operator q :: .operator p :: below →
    p.priority ≤ q.priority

end Stacking

def StaysOn : Waiting → Waiting → Prop
  | .operator q, .operator p => q.popsBefore p = false
  | _, _ => True

/-- What waits, and its depth, within the limit. -/
structure Conversion.Stacked (limit : Nat) (s : Conversion) : Prop where
  consistent : s.Consistent
  bound : s.depth ≤ limit
  stays : s.waiting.IsChain StaysOn

section

variable {limit : Nat} {s s' : Conversion} {t : Token} {ts : List Token} {ws : List Waiting}
  {output : List Token} {o p q : Operator}

theorem stays_kept : KeptByWriting fun ws _ => ws.IsChain StaysOn where
  operator _ _ _ h := h.tail
  function _ _ _ h := h.tail

/-- The loop that pops for an operator stops at one that it stays on. -/
theorem staysOn_release (o : Operator) (ws : List Waiting) (output : List Token) :
    ∀ w ∈ (release o ws output).1.head?, StaysOn (.operator o) w := by
  induction ws generalizing output with
  | nil => nofun
  | cons w ws ih =>
    cases w with
    | function f => rintro w ⟨⟩; trivial
    | bracket => rintro w ⟨⟩; trivial
    | operator p =>
      simp only [release]
      split
      · exact ih (.operator p :: output)
      · next hp =>
        rintro w ⟨⟩
        exact Bool.eq_false_iff.2 hp

theorem priority_le (h : q.popsBefore p = false) : p.priority ≤ q.priority := by
  unfold Operator.popsBefore at h
  split at h <;> simp at h <;> omega

namespace Conversion

theorem stays_toBracket (h : s.waiting.IsChain StaysOn)
    (ht : toBracket s.waiting s.output = some (ws, output)) :
    (Waiting.bracket :: ws).IsChain StaysOn := stays_kept.toBracket h ht

theorem Stacked.stays_step (h : s.Stacked limit) (hs : s.step limit t = .ok s') :
    s'.waiting.IsChain StaysOn := by
  cases t with
  | operator o =>
    cases hs
    exact List.isChain_cons.2
      ⟨staysOn_release o s.waiting s.output, stays_kept.release h.stays o⟩
  | function f =>
    cases hs
    exact List.isChain_cons.2 ⟨fun _ _ => trivial, h.stays⟩
  | leftBracket =>
    obtain ⟨-, rfl⟩ := leftBracket_ok hs
    exact List.isChain_cons.2 ⟨fun _ _ => trivial, h.stays⟩
  | comma =>
    obtain ⟨f, ws, output, ht, rfl⟩ := comma_ok hs
    exact stays_toBracket h.stays ht
  | rightBracket =>
    obtain ⟨f, ws, output, ht, rfl⟩ | ⟨ws, output, ht, -, rfl⟩ := rightBracket_ok hs
    · exact (stays_toBracket h.stays ht).tail.tail
    · exact (stays_toBracket h.stays ht).tail
  | _ =>
    cases hs
    exact h.stays

theorem step_bound (h : s.depth ≤ limit) (hs : s.step limit t = .ok s') : s'.depth ≤ limit := by
  cases t with
  | leftBracket =>
    obtain ⟨hd, rfl⟩ := leftBracket_ok hs
    exact hd
  | comma =>
    obtain ⟨f, ws, output, -, rfl⟩ := comma_ok hs
    exact h
  | rightBracket =>
    obtain ⟨f, ws, output, -, rfl⟩ | ⟨ws, output, -, -, rfl⟩ := rightBracket_ok hs
    · exact Nat.le_trans (Nat.sub_le _ _) h
    · exact Nat.le_trans (Nat.sub_le _ _) h
  | _ =>
    cases hs
    exact h

theorem stacked_empty (limit : Nat) : Stacked limit {} :=
  ⟨consistent_empty, Nat.zero_le _, .nil⟩

theorem Stacked.step (h : s.Stacked limit) (hs : s.step limit t = .ok s') : s'.Stacked limit :=
  ⟨h.consistent.step hs, step_bound h.bound hs, h.stays_step hs⟩

theorem Stacked.run (h : s.Stacked limit) (hs : s.run limit ts = .ok s') : s'.Stacked limit := by
  induction ts generalizing s with
  | nil =>
    cases hs
    exact h
  | cons t ts ih =>
    obtain ⟨next, ht, hts⟩ := run_cons hs
    exact ih (h.step ht) hts

end Conversion

namespace Stacking

theorem atCall_token (ws : List Waiting) :
    atCall (ws.map Waiting.token) = Reckoner.atCall ws := by
  rcases ws with _ | ⟨o | f | _, ws⟩ <;> rfl

theorem unwind_token (ws : List Waiting) (output : List Token) :
    unwind (ws.map Waiting.token) output =
      (toBracket ws output).map fun x => (x.1.map Waiting.token, x.2) := by
  induction ws generalizing output with
  | nil => rfl
  | cons w ws ih =>
    cases w with
    | operator o => exact ih (.operator o :: output)
    | function f => exact ih (.function f :: output)
    | bracket => rfl

theorem release_token (o : Operator) (ws : List Waiting) (output : List Token) :
    release o (ws.map Waiting.token) output =
      ((Reckoner.release o ws output).1.map Waiting.token, (Reckoner.release o ws output).2) := by
  induction ws generalizing output with
  | nil => rfl
  | cons w ws ih =>
    cases w with
    | function f => rfl
    | bracket => rfl
    | operator p =>
      simp only [List.map_cons, Waiting.token, release, Reckoner.release]
      split
      · exact ih (.operator p :: output)
      · rfl

theorem drain_token (ws : List Waiting) (output : List Token) :
    drain (ws.map Waiting.token) output = finish ws output := by
  induction ws generalizing output with
  | nil => rfl
  | cons w ws ih =>
    cases w with
    | operator o => exact ih (.operator o :: output)
    | function f => exact ih (.function f :: output)
    | bracket => rfl

theorem close_token (depth : Nat) (ws : List Waiting) (output : List Token) :
    close (depth + 1) (ws.map Waiting.token) output = some (ofConversion
      (match ws with
      | .function f :: ws => ⟨.function f :: output, ws, depth, some .rightBracket⟩
      | ws => ⟨output, ws, depth, some .rightBracket⟩)) := by
  rcases ws with _ | ⟨o | f | _, ws⟩ <;> rfl

theorem operator_conversion (s : Conversion) (o : Operator) :
    (ofConversion s).operator o = ofConversion (s.operator o) := by
  have hr : release o (ofConversion s).stack (ofConversion s).output = _ :=
    release_token o s.waiting s.output
  simp only [operator, hr]
  rfl

theorem leftBracket_conversion (limit : Nat) (s : Conversion) :
    (ofConversion s).leftBracket limit = (s.leftBracket limit).map ofConversion := by
  have hd : (ofConversion s).depth = s.depth := rfl
  have hc : atCall (ofConversion s).stack = Reckoner.atCall s.waiting := atCall_token s.waiting
  simp only [leftBracket, Conversion.leftBracket, hd, hc]
  split <;> rfl

theorem comma_conversion (s : Conversion) :
    (ofConversion s).comma = s.comma.map ofConversion := by
  have hp : opensArgument (ofConversion s).previous = (s.afterLeftBracket || s.afterComma) := by
    obtain ⟨output, ws, depth, _ | t⟩ := s
    · rfl
    · cases t <;> rfl
  have hu : unwind (ofConversion s).stack (ofConversion s).output = _ :=
    unwind_token s.waiting s.output
  simp only [comma, Conversion.comma, hp, hu]
  split
  · rfl
  · cases toBracket s.waiting s.output with
    | none => rfl
    | some x =>
      simp only [Option.map_some, atCall_token]
      split <;> rfl

theorem rightBracket_conversion (h : s.Consistent) :
    (ofConversion s).rightBracket = some (s.rightBracket.map ofConversion) := by
  have hp : isComma (ofConversion s).previous = s.afterComma := by
    obtain ⟨output, ws, depth, _ | t⟩ := s
    · rfl
    · cases t <;> rfl
  have hu : unwind (ofConversion s).stack (ofConversion s).output = _ :=
    unwind_token s.waiting s.output
  simp only [rightBracket, Conversion.rightBracket, hp, hu]
  split
  · rfl
  · cases ht : toBracket s.waiting s.output with
    | none => rfl
    | some x =>
      obtain ⟨depth, hd⟩ : ∃ depth, s.depth = depth + 1 :=
        ⟨openBrackets x.1, h.depth.trans (openBrackets_toBracket ht)⟩
      have hm : (ofConversion s).depth = depth + 1 := hd
      simp only [Option.map_some, hm, hd, close_token]
      rcases x with ⟨_ | ⟨o | f | _, ws⟩, output⟩ <;> rfl

theorem step_conversion (h : s.Consistent) (limit : Nat) (t : Token) :
    (ofConversion s).step limit t = some ((s.step limit t).map ofConversion) := by
  cases t with
  | operator o => exact congrArg (some ∘ Except.ok) (operator_conversion s o)
  | leftBracket => exact congrArg some (leftBracket_conversion limit s)
  | comma => exact congrArg some (comma_conversion s)
  | rightBracket => exact rightBracket_conversion h
  | _ => rfl

/-- Both conversions come to the same states. -/
theorem run_conversion (h : s.Consistent) (limit : Nat) (ts : List Token) :
    (ofConversion s).run limit ts = some ((s.run limit ts).map ofConversion) := by
  induction ts generalizing s with
  | nil => rfl
  | cons t ts ih =>
    simp only [run, Conversion.run, step_conversion h]
    cases ht : s.step limit t with
    | error e => rfl
    | ok next => exact ih (h.step ht)

theorem convert_eq (limit : Nat) (ts : List Token) :
    convert limit ts = some (reversePolish limit ts) := by
  have hrun : run limit {} ts = _ := run_conversion Conversion.consistent_empty limit ts
  simp only [convert, hrun, reversePolish]
  cases Conversion.run limit {} ts with
  | error e => rfl
  | ok s => exact congrArg some (drain_token s.waiting s.output)

theorem openings_token (ws : List Waiting) :
    openings (ws.map Waiting.token) = openBrackets ws := by
  rw [openings, openBrackets, List.countP_map]
  congr
  funext w
  cases w <;> rfl

theorem staysOn_adjacent (h : ws.IsChain StaysOn) {above below : List Token}
    (hws : ws.map Waiting.token = above ++ .operator q :: .operator p :: below) :
    q.popsBefore p = false := by
  obtain ⟨us, vs, rfl, -, hvs⟩ := List.map_eq_append_iff.1 hws
  obtain ⟨w, vs, rfl, hq, hvs⟩ := List.map_eq_cons_iff.1 hvs
  obtain ⟨v, vs, rfl, hp, -⟩ := List.map_eq_cons_iff.1 hvs
  cases w <;> cases hq
  cases v <;> cases hp
  exact (List.isChain_cons_cons.1 (List.isChain_append.1 h).2.1).1

theorem invariant_conversion (h : s.Stacked limit) : (ofConversion s).Invariant limit where
  waiting t ht := by
    obtain ⟨w, -, rfl⟩ := List.mem_map.1 ht
    cases w <;> rfl
  depth := h.consistent.depth.trans (openings_token s.waiting).symm
  bound := h.bound
  kept _ _ _ _ hstack := staysOn_adjacent h.stays hstack
  rising _ _ _ _ hstack := priority_le (staysOn_adjacent h.stays hstack)

/-- A comma takes the bracket off the stack and puts it back. -/
theorem comma_invariant {m : Stacking} (h : s.Stacked limit)
    (hm : (ofConversion s).comma = .ok m) : m.Invariant limit ∧ m.depth = s.depth := by
  rw [comma_conversion] at hm
  cases hc : s.comma with
  | error e =>
    rw [hc] at hm
    cases hm
  | ok s' =>
    rw [hc] at hm
    cases hm
    refine ⟨invariant_conversion (h.step (t := .comma) hc), ?_⟩
    obtain ⟨f, ws, output, -, rfl⟩ := Conversion.comma_ok hc
    rfl

/-- Before each token only operators, functions and brackets wait, the depth is that of the brackets
and within the limit, and no operator stands above one that it is applied after. A comma leaves it
so too, and no bracket is closed at depth zero. The stack is that of the conversion. -/
theorem run_invariant (limit : Nat) (ts : List Token) :
    convert limit ts = some (reversePolish limit ts) ∧
    ∀ n, ∃ answer, run limit {} (ts.take n) = some answer ∧
      answer = (Conversion.run limit {} (ts.take n)).map ofConversion ∧
      ∀ m, answer = .ok m → m.Invariant limit ∧ (∀ t, m.step limit t ≠ none) ∧
        ∀ m', m.comma = .ok m' → m'.Invariant limit ∧ m'.depth = m.depth := by
  refine ⟨convert_eq limit ts, fun n => ?_⟩
  refine ⟨_, run_conversion Conversion.consistent_empty limit (ts.take n), rfl, fun m hm => ?_⟩
  cases hs : Conversion.run limit {} (ts.take n) with
  | error e =>
    rw [hs] at hm
    cases hm
  | ok s =>
    rw [hs] at hm
    cases hm
    have hstacked : s.Stacked limit := (Conversion.stacked_empty limit).run hs
    refine ⟨invariant_conversion hstacked, fun t => ?_, fun m' => comma_invariant hstacked⟩
    rw [step_conversion hstacked.consistent]
    exact Option.some_ne_none _

theorem run_invariant_call : ∃ (f : Callable) (sum power : Operator) (m : Stacking),
    run 1 {} [.function f, .leftBracket, .var "x", .operator sum, .var "y", .operator power] =
      some (.ok m) ∧
    m.stack = [.operator power, .operator sum, .leftBracket, .function f] ∧
    m.Invariant 1 ∧ ∀ t, m.step 1 t ≠ none := by
  let f : Callable := ⟨"f", 1, true, fun _ => .ok (.text "")⟩
  let sum : Operator := .binary "+" 1 .left fun x y => .ok (x + y)
  let power : Operator := .binary "^" 3 .right fun x y => .ok (x ^ y)
  obtain ⟨answer, hrun, -, hanswer⟩ := (run_invariant 1
    [.function f, .leftBracket, .var "x", .operator sum, .var "y", .operator power, .var "z"]).2 6
  cases hrun
  obtain ⟨hinvariant, hstep, -⟩ := hanswer _ rfl
  exact ⟨f, sum, power, _, rfl, rfl, hinvariant, hstep⟩

end Stacking

end

end Reckoner
