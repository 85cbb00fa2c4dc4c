import Reckoner.Proofs.Conversion
import Reckoner.Proofs.Grammar

/-! Tokens in place that the conversion accepts are a sentence. The waiting stack shows which
brackets are open, and whether each belongs to a call. What is still to be read has to complete what
is open, from the inside to the outside.
-/

set_option autoImplicit false

namespace Reckoner

section Grammar

variable {α φ β υ σ : Type} (S : Script α φ β υ σ)

def enclosed (call : Bool) : Category := if call then .arguments else .sentence

def Fills (c : Category) : Place → List σ → Prop
  | .due, ts => Derives S c ts
  | .complete, ts => ∀ xs, Derives S c xs → Derives S c (xs ++ ts)

/-- The symbols fill the open brackets, the innermost first, and what is outside of them. -/
def Completes : Place → List Bool → List σ → Prop
  | p, [], ts => Fills S .sentence p ts
  | p, call :: bs, ts => ∃ us rest, ts = us ++ S.closing :: rest ∧
      Fills S (enclosed call) p us ∧ Completes .complete bs rest

variable {S} {bs : List Bool} {p q : Place} {ts xs : List σ}

theorem enclosed_of_sentence (h : Derives S .sentence ts) : ∀ call, Derives S (enclosed call) ts
  | true => .argument h
  | false => h

theorem Completes.prepend (h : Completes S p bs ts) (xs : List σ) (hf : ∀ call us,
    Fills S (enclosed call) p us → Fills S (enclosed call) q (xs ++ us)) :
    Completes S q bs (xs ++ ts) := by
  cases bs with
  | nil => exact hf false ts h
  | cons call bs =>
    obtain ⟨us, rest, rfl, hus, hrest⟩ := h
    exact ⟨xs ++ us, rest, (List.append_assoc _ _ _).symm, hf call us hus, hrest⟩

theorem Completes.primary (hx : Derives S .primary xs) (h : Completes S .complete bs ts) :
    Completes S .due bs (xs ++ ts) :=
  h.prepend xs fun call _ hus => hus xs (enclosed_of_sentence (.one (.plain hx)) call)

theorem Completes.unary (u : υ) (h : Completes S .due bs ts) :
    Completes S .due bs (S.unary u :: ts) := by
  refine h.prepend [S.unary u] fun call us hus => ?_
  cases call with
  | true => exact Derives.unary_arguments u hus
  | false => exact Derives.unary_sentence u hus

theorem Completes.binary (o : β) (h : Completes S .due bs ts) :
    Completes S .complete bs (S.binary o :: ts) := by
  refine h.prepend [S.binary o] fun call us hus ys hys => ?_
  cases call with
  | true => exact Derives.arguments_binary o hys hus
  | false => exact Derives.sentence_binary o hys hus

theorem Completes.group (h : Completes S .due (false :: bs) ts) :
    Completes S .due bs (S.opening :: ts) := by
  obtain ⟨us, rest, rfl, hus, hrest⟩ := h
  have hp := hrest.primary (Derives.group hus)
  rwa [List.cons_append, List.append_assoc] at hp

theorem Completes.call (f : φ) (h : Completes S .due (true :: bs) ts) :
    Completes S .due bs (S.function f :: S.opening :: ts) := by
  obtain ⟨us, rest, rfl, hus, hrest⟩ := h
  have hp := hrest.primary (Derives.call f hus)
  rwa [List.cons_append, List.cons_append, List.append_assoc] at hp

theorem Completes.closing (call : Bool) (h : Completes S .complete bs ts) :
    Completes S .complete (call :: bs) (S.closing :: ts) := by
  refine ⟨[], ts, rfl, fun ys hys => ?_, h⟩
  rwa [List.append_nil]

theorem Completes.comma (h : Completes S .due (true :: bs) ts) :
    Completes S .complete (true :: bs) (S.comma :: ts) := by
  obtain ⟨us, rest, rfl, hus, hrest⟩ := h
  exact ⟨S.comma :: us, rest, rfl, fun ys hys => Derives.arguments_comma hys hus, hrest⟩

end Grammar

/-- The brackets that wait, the innermost first, each with whether it belongs to a call. -/
inductive Open : List Bool → List Waiting → Prop where
  | nil : Open [] []
  | operator (o : Operator) {bs : List Bool} {ws : List Waiting} : Open bs ws →
      Open bs (.operator o :: ws)
  | group {bs : List Bool} {ws : List Waiting} : Open bs ws → Open (false :: bs) (.bracket :: ws)
  | call (f : Callable) {bs : List Bool} {ws : List Waiting} : Open bs ws →
      Open (true :: bs) (.bracket :: .function f :: ws)

namespace Open

variable {bs : List Bool} {ws : List Waiting}

theorem atCall (h : Open bs ws) : atCall ws = false := by
  cases h <;> rfl

theorem release (h : Open bs ws) (o : Operator) (output : List Token) :
    Open bs (release o ws output).1 := by
  induction h generalizing output with
  | nil => exact .nil
  | operator p h ih =>
    simp only [Reckoner.release]
    split
    · exact ih _
    · exact .operator p h
  | group h _ => exact .group h
  | call f h _ => exact .call f h

theorem toBracket_nil (h : Open [] ws) (output : List Token) : toBracket ws output = none := by
  generalize hb : ([] : List Bool) = bs at h
  induction h generalizing output with
  | nil => rfl
  | operator o _ ih => exact ih _ hb
  | group | call => cases hb

theorem toBracket_group (h : Open (false :: bs) ws) (output : List Token) :
    ∃ ws' output', toBracket ws output = some (ws', output') ∧ Open bs ws' := by
  generalize hb : false :: bs = cs at h
  induction h generalizing output with
  | nil | call => cases hb
  | operator o _ ih => exact ih _ hb
  | group h _ =>
    cases hb
    exact ⟨_, output, rfl, h⟩

theorem toBracket_call (h : Open (true :: bs) ws) (output : List Token) :
    ∃ f ws' output', toBracket ws output = some (.function f :: ws', output') ∧ Open bs ws' := by
  generalize hb : true :: bs = cs at h
  induction h generalizing output with
  | nil | group => cases hb
  | operator o _ ih => exact ih _ hb
  | call f h _ =>
    cases hb
    exact ⟨f, _, output, rfl, h⟩

theorem finish_ok (h : Open [] ws) (output : List Token) :
    ∃ out, Reckoner.finish ws output = .ok out := by
  generalize hb : ([] : List Bool) = bs at h
  induction h generalizing output with
  | nil => exact ⟨_, rfl⟩
  | operator o _ ih => exact ih _ hb
  | group | call => cases hb

theorem finish_error {b : Bool} (h : Open (b :: bs) ws) (output : List Token) :
    Reckoner.finish ws output = .error .mismatchedBracket := by
  generalize hb : b :: bs = cs at h
  induction h generalizing output with
  | nil => cases hb
  | operator o _ ih => exact ih _ hb
  | group | call => rfl

theorem finish (h : Open bs ws) {output out : List Token} (hf : finish ws output = .ok out) :
    bs = [] := by
  cases bs with
  | nil => rfl
  | cons b bs =>
    rw [h.finish_error] at hf
    cases hf

end Open

namespace Conversion

variable {limit : Nat} {s s' : Conversion} {bs : List Bool}

theorem open_leftBracket (h : s.leftBracket limit = .ok s') :
    s'.waiting = .bracket :: s.waiting := by
  obtain ⟨-, rfl⟩ := leftBracket_ok h
  rfl

theorem open_rightBracket (ho : Open bs s.waiting) (h : s.rightBracket = .ok s') :
    ∃ call cs, bs = call :: cs ∧ Open cs s'.waiting := by
  have hp : s.afterComma = false := rightBracket_after h
  cases bs with
  | nil =>
    simp [rightBracket, hp, ho.toBracket_nil] at h
  | cons call cs =>
    refine ⟨call, cs, rfl, ?_⟩
    cases call with
    | true =>
      obtain ⟨f, ws, output, ht, hw⟩ := ho.toBracket_call s.output
      rw [rightBracket_call hp ht] at h
      cases h
      exact hw
    | false =>
      obtain ⟨ws, output, ht, hw⟩ := ho.toBracket_group s.output
      rw [rightBracket_plain hp ht hw.atCall] at h
      cases h
      exact hw

theorem open_comma (ho : Open bs s.waiting) (h : s.comma = .ok s') :
    ∃ cs, bs = true :: cs ∧ Open bs s'.waiting := by
  obtain ⟨f, ws, output, ht, rfl⟩ := comma_ok h
  cases bs with
  | nil =>
    rw [ho.toBracket_nil] at ht
    cases ht
  | cons call cs =>
    cases call with
    | true =>
      obtain ⟨g, ws', output', ht', hw⟩ := ho.toBracket_call s.output
      cases ht.symm.trans ht'
      exact ⟨cs, rfl, .call f hw⟩
    | false =>
      obtain ⟨ws', output', ht', hw⟩ := ho.toBracket_group s.output
      cases ht.symm.trans ht'
      cases hw.atCall

theorem open_operator (ho : Open bs s.waiting) (o : Operator) :
    Open bs (s.operator o).waiting := .operator o (ho.release o s.output)

end Conversion

variable {α φ β υ : Type} (L : Lexicon α φ β υ)

theorem step_leaf (limit : Nat) (s : Conversion) (a : α) :
    s.step limit (L.script.leaf a) = .ok (s.operand (L.script.leaf a)) :=
  s.step_atom limit (L.leaf a)

/-- What is read completes what is open, when it is in place and the conversion succeeds. -/
theorem completes_of_run {p : Place} {ts : List Token} (h : InPlace L.script p ts) {limit : Nat}
    {s s' : Conversion} {bs : List Bool} {out : List Token} (ho : Open bs s.waiting)
    (hr : s.run limit ts = .ok s') (hf : finish s'.waiting s'.output = .ok out) :
    Completes L.script p bs ts := by
  induction h generalizing s bs with
  | leaf a _ ih =>
    obtain ⟨next, hs, hr⟩ := Conversion.run_cons hr
    rw [step_leaf] at hs
    cases hs
    have hn : Open bs (s.operand (L.script.leaf a)).waiting := ho
    exact (ih hn hr).primary (.leaf a)
  | unary u _ ih =>
    obtain ⟨next, hs, hr⟩ := Conversion.run_cons hr
    cases hs
    exact (ih (Conversion.open_operator ho _) hr).unary u
  | group _ ih =>
    obtain ⟨next, hs, hr⟩ := Conversion.run_cons hr
    have hn : Open (false :: bs) next.waiting := by
      rw [Conversion.open_leftBracket hs]
      exact .group ho
    exact (ih hn hr).group
  | empty f _ ih =>
    obtain ⟨called, hs, hr⟩ := Conversion.run_cons hr
    cases hs
    obtain ⟨opened, hs, hr⟩ := Conversion.run_cons hr
    obtain ⟨closed, hc, hr⟩ := Conversion.run_cons hr
    have hn : Open (true :: bs) opened.waiting := by
      rw [Conversion.open_leftBracket hs]
      exact .call _ ho
    obtain ⟨call, cs, hcs, hclosed⟩ := Conversion.open_rightBracket hn hc
    cases hcs
    exact (ih hclosed hr).primary (.empty f)
  | call f _ ih =>
    obtain ⟨called, hs, hr⟩ := Conversion.run_cons hr
    cases hs
    obtain ⟨opened, hs, hr⟩ := Conversion.run_cons hr
    have hn : Open (true :: bs) opened.waiting := by
      rw [Conversion.open_leftBracket hs]
      exact .call _ ho
    exact (ih hn hr).call f
  | binary o _ ih =>
    obtain ⟨next, hs, hr⟩ := Conversion.run_cons hr
    cases hs
    exact (ih (Conversion.open_operator ho _) hr).binary o
  | closing _ ih =>
    obtain ⟨next, hs, hr⟩ := Conversion.run_cons hr
    obtain ⟨call, cs, rfl, hn⟩ := Conversion.open_rightBracket ho hs
    exact (ih hn hr).closing call
  | comma _ ih =>
    obtain ⟨next, hs, hr⟩ := Conversion.run_cons hr
    obtain ⟨cs, rfl, hn⟩ := Conversion.open_comma ho hs
    exact (ih hn hr).comma
  | last =>
    cases hr
    cases ho.finish hf
    intro xs hxs
    rwa [List.append_nil]

theorem sentence_of_inPlace {ts : List Token} (h : InPlace L.script .due ts) {limit : Nat}
    {out : List Token} (hr : reversePolish limit ts = .ok out) : Derives L.script .sentence ts := by
  obtain ⟨s, hs, hf⟩ := reversePolish_run hr
  exact completes_of_run L h .nil hs hf

end Reckoner
