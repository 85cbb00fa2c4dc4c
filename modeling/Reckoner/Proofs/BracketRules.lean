import Mathlib.Data.List.Induction
import Reckoner.Proofs.Balance
import Reckoner.Proofs.Completion

/-! Which tokens the conversion accepts, and what it reports of others, where each function stands
before its bracket. It counts levels and looks at its stack of what waits; the rules here only look
at the tokens themselves. The first token that breaks a rule decides what is reported.
-/

set_option autoImplicit false

namespace Reckoner

def CallsBracketed (ts : List Token) : Prop :=
  ∀ us f rest, ts = us ++ .function f :: rest → rest.head? = some .leftBracket

def opensArgument : Option Token → Bool
  | some .leftBracket | some .comma => true
  | _ => false

def isComma : Option Token → Bool
  | some .comma => true
  | _ => false

/-- The rules of brackets, commas and depth. -/
structure Acceptable (limit : Nat) (ts : List Token) : Prop where
  balanced : Balanced ts
  depth : ∀ us, us <+: ts → level us ≤ limit
  commas : ∀ us rest, ts = us ++ .comma :: rest → InCall us ∧ opensArgument us.getLast? = false
  closings : ∀ us rest, ts = us ++ .rightBracket :: rest → isComma us.getLast? = false

/-- A token that breaks a rule where it stands, after `us`, with what is reported of it. -/
inductive Fault (limit : Nat) (us : List Token) : Token → Error → Prop where
  | tooDeep : level us = limit → Fault limit us .leftBracket (.tooDeep limit)
  | beforeComma : opensArgument us.getLast? = true → Fault limit us .comma .emptyArgument
  | outsideArguments : opensArgument us.getLast? = false → ¬ InCall us → level us ≠ 0 →
      Fault limit us .comma .commaOutsideArguments
  | outsideBrackets : opensArgument us.getLast? = false → ¬ InCall us → level us = 0 →
      Fault limit us .comma .commaOutsideBrackets
  | beforeClosing : isComma us.getLast? = true → Fault limit us .rightBracket .emptyArgument
  | unmatched : isComma us.getLast? = false → level us = 0 →
      Fault limit us .rightBracket .mismatchedBracket

/-- No token breaks a rule. -/
def Faultless (limit : Nat) (ts : List Token) : Prop :=
  ∀ us t rest, ts = us ++ t :: rest → ∀ e, ¬ Fault limit us t e

/-- The first token that breaks a rule is reported so. -/
def FirstFault (limit : Nat) (ts : List Token) (e : Error) : Prop :=
  ∃ us t rest, ts = us ++ t :: rest ∧ Faultless limit us ∧ Fault limit us t e

/-- What is reported: the first fault, or if there is none, that a bracket stays open. -/
def Reported (limit : Nat) (ts : List Token) (e : Error) : Prop :=
  FirstFault limit ts e ∨ Faultless limit ts ∧ level ts ≠ 0 ∧ e = .mismatchedBracket

def uncalled : Option Token → List Waiting
  | some (.function f) => [.function f]
  | _ => []

structure Reads (limit : Nat) (us : List Token) (bs : List Bool) (s : Conversion) : Prop where
  opened : Opened us bs
  previous : s.previous = us.getLast?
  depth : s.depth = bs.length
  bound : s.depth ≤ limit
  waiting : ∃ ws, Open bs ws ∧ s.waiting = uncalled us.getLast? ++ ws

section

variable {limit : Nat} {ts us : List Token} {t : Token} {bs : List Bool} {b : Bool}
  {e e' : Error} {s : Conversion}

theorem no_fault (ht : t.turn = 0) (hc : isComma (some t) = false) : ¬ Fault limit us t e := by
  rintro (h | h | h | h | h | h) <;> simp [Token.turn, isComma] at ht hc

namespace Reads

theorem level_eq (h : Reads limit us bs s) : level us = s.depth := by
  rw [h.opened.level_eq, h.depth]

theorem afterComma (h : Reads limit us bs s) : s.afterComma = isComma us.getLast? := by
  rw [← h.previous]
  rfl

theorem opensArgument (h : Reads limit us bs s) :
    (s.afterLeftBracket || s.afterComma) = opensArgument us.getLast? := by
  rw [← h.previous]
  simp only [Conversion.afterLeftBracket, Conversion.afterComma]
  rcases s.previous with _ | t
  · rfl
  · cases t <;> rfl

theorem waits (h : Reads limit us bs s) (hf : ∀ f, us.getLast? ≠ some (.function f)) :
    Open bs s.waiting := by
  obtain ⟨ws, ho, hw⟩ := h.waiting
  have hnone : uncalled us.getLast? = [] := by
    cases hl : us.getLast? with
    | none => rfl
    | some t => cases t <;> first | rfl | exact absurd hl (hf _)
  rwa [hw, hnone]

theorem operand (h : Reads limit us bs s) (hf : ∀ f, us.getLast? ≠ some (.function f))
    (ht : t.turn = 0) (hu : uncalled (some t) = []) :
    Reads limit (us ++ [t]) bs (s.operand t) where
  opened := h.opened.other ht
  previous := by simp [Conversion.operand]
  depth := h.depth
  bound := h.bound
  waiting := ⟨s.waiting, h.waits hf, by simp [Conversion.operand, hu]⟩

theorem operator (h : Reads limit us bs s) (hf : ∀ f, us.getLast? ≠ some (.function f))
    (o : Operator) : Reads limit (us ++ [.operator o]) bs (s.operator o) where
  opened := h.opened.other rfl
  previous := by simp [Conversion.operator]
  depth := h.depth
  bound := h.bound
  waiting := ⟨_, Conversion.open_operator (h.waits hf) o, by simp [uncalled]⟩

theorem function (h : Reads limit us bs s) (hf : ∀ f, us.getLast? ≠ some (.function f))
    (f : Callable) : Reads limit (us ++ [.function f]) bs (s.function f) where
  opened := h.opened.other rfl
  previous := by simp [Conversion.function]
  depth := h.depth
  bound := h.bound
  waiting := ⟨s.waiting, h.waits hf, by simp [Conversion.function, uncalled]⟩

def Steps (limit : Nat) (us : List Token) (t : Token) : Except Error Conversion → Prop
  | .ok s => (∃ bs, Reads limit (us ++ [t]) bs s) ∧ ∀ e, ¬ Fault limit us t e
  | .error e => Fault limit us t e

theorem leftBracket (h : Reads limit us bs s) :
    Steps limit us .leftBracket (s.leftBracket limit) := by
  by_cases hd : limit < s.depth + 1
  · have hlevel := h.level_eq
    have hbound := h.bound
    rw [Conversion.leftBracket_tooDeep hd]
    exact .tooDeep (by omega)
  · have hno : ∀ e, ¬ Fault limit us .leftBracket e := by
      rintro e ⟨hl⟩
      have hlevel := h.level_eq
      omega
    by_cases hf : ∃ f, us.getLast? = some (.function f)
    · obtain ⟨f, hf⟩ := hf
      obtain ⟨ws, ho, hw⟩ := h.waiting
      rw [hf] at hw
      rw [Conversion.leftBracket_call (by omega) hw]
      refine ⟨⟨true :: bs, .call f h.opened hf .nil, by simp, by simp [h.depth], by simpa using hd,
        ⟨_, .call f ho, by simp [uncalled]⟩⟩, hno⟩
    · rw [not_exists] at hf
      have ho := h.waits hf
      rw [Conversion.leftBracket_plain (by omega) ho.atCall]
      exact ⟨⟨false :: bs, .group h.opened hf .nil, by simp, by simp [h.depth], by simpa using hd,
        ⟨_, .group ho, by simp [uncalled]⟩⟩, hno⟩

theorem comma (h : Reads limit us bs s) (hf : ∀ f, us.getLast? ≠ some (.function f)) :
    Steps limit us .comma s.comma := by
  have ho := h.waits hf
  have hcall := h.opened.inCall
  have hlevel := h.opened.level_eq
  cases hp : Reckoner.opensArgument us.getLast? with
  | true =>
    rw [Conversion.comma, h.opensArgument, hp, if_pos rfl]
    exact .beforeComma hp
  | false =>
    simp only [Conversion.comma, h.opensArgument, hp, Bool.false_eq_true, if_false]
    cases bs with
    | nil =>
      rw [ho.toBracket_nil]
      exact .outsideBrackets hp (by simp [hcall]) hlevel
    | cons b bs =>
      cases b with
      | false =>
        obtain ⟨ws, output, ht, hw⟩ := ho.toBracket_group s.output
        simp only [ht, hw.atCall, Bool.false_eq_true, if_false]
        exact .outsideArguments hp (by simp [hcall]) (by simp [hlevel]; omega)
      | true =>
        obtain ⟨f, ws, output, ht, hw⟩ := ho.toBracket_call s.output
        simp only [ht, Reckoner.atCall, if_true]
        refine ⟨⟨true :: bs, h.opened.other rfl, by simp, h.depth, h.bound,
          ⟨_, .call f hw, by simp [uncalled]⟩⟩, ?_⟩
        rintro e (_ | hc | ⟨_, hc, _⟩ | ⟨_, hc, _⟩)
        · simp [hp] at hc
        · exact hc (hcall.2 rfl)
        · exact hc (hcall.2 rfl)

theorem rightBracket (h : Reads limit us bs s) (hf : ∀ f, us.getLast? ≠ some (.function f)) :
    Steps limit us .rightBracket s.rightBracket := by
  have ho := h.waits hf
  have hlevel := h.opened.level_eq
  cases hp : isComma us.getLast? with
  | true =>
    rw [Conversion.rightBracket, h.afterComma, hp, if_pos rfl]
    exact .beforeClosing hp
  | false =>
    have hafter := h.afterComma.trans hp
    cases bs with
    | nil =>
      simp only [Conversion.rightBracket, hafter, ho.toBracket_nil]
      exact .unmatched hp hlevel
    | cons b bs =>
      have hno : ∀ e, ¬ Fault limit us .rightBracket e := by
        rintro e (_ | _ | _ | _ | hc | ⟨_, hc⟩)
        · simp [hp] at hc
        · simp [hlevel] at hc
          omega
      have hdepth : s.depth - 1 = bs.length := by simp [h.depth]
      have hbound : s.depth - 1 ≤ limit := Nat.le_trans (Nat.sub_le _ _) h.bound
      cases b with
      | false =>
        obtain ⟨ws, output, ht, hw⟩ := ho.toBracket_group s.output
        rw [Conversion.rightBracket_plain hafter ht hw.atCall]
        exact ⟨⟨bs, h.opened.close, by simp, hdepth, hbound, ⟨ws, hw, by simp [uncalled]⟩⟩, hno⟩
      | true =>
        obtain ⟨f, ws, output, ht, hw⟩ := ho.toBracket_call s.output
        rw [Conversion.rightBracket_call hafter ht]
        exact ⟨⟨bs, h.opened.close, by simp, hdepth, hbound, ⟨ws, hw, by simp [uncalled]⟩⟩, hno⟩

theorem step (h : Reads limit us bs s)
    (hf : ∀ f, us.getLast? = some (.function f) → t = .leftBracket) :
    Steps limit us t (s.step limit t) := by
  have hlast (ht : t ≠ .leftBracket) (f : Callable) : us.getLast? ≠ some (.function f) :=
    fun hl => ht (hf f hl)
  cases t with
  | number v => exact ⟨⟨bs, h.operand (hlast nofun) rfl rfl⟩, fun _ => no_fault rfl rfl⟩
  | text v => exact ⟨⟨bs, h.operand (hlast nofun) rfl rfl⟩, fun _ => no_fault rfl rfl⟩
  | var v => exact ⟨⟨bs, h.operand (hlast nofun) rfl rfl⟩, fun _ => no_fault rfl rfl⟩
  | identifier v => exact ⟨⟨bs, h.operand (hlast nofun) rfl rfl⟩, fun _ => no_fault rfl rfl⟩
  | operator o => exact ⟨⟨bs, h.operator (hlast nofun) o⟩, fun _ => no_fault rfl rfl⟩
  | function f => exact ⟨⟨bs, h.function (hlast nofun) f⟩, fun _ => no_fault rfl rfl⟩
  | leftBracket => exact h.leftBracket
  | comma => exact h.comma (hlast nofun)
  | rightBracket => exact h.rightBracket (hlast nofun)

end Reads

theorem FirstFault.append (h : FirstFault limit us e) (rest : List Token) :
    FirstFault limit (us ++ rest) e := by
  obtain ⟨vs, t, ws, rfl, hvs, ht⟩ := h
  exact ⟨vs, t, ws ++ rest, by simp, hvs, ht⟩

theorem Faultless.not_firstFault (h : Faultless limit ts) : ¬ FirstFault limit ts e := by
  rintro ⟨us, t, rest, hts, -, ht⟩
  exact h us t rest hts e ht

theorem Faultless.snoc (h : Faultless limit us) (ht : ∀ e, ¬ Fault limit us t e) :
    Faultless limit (us ++ [t]) := by
  rintro vs u rest hvs
  rcases List.eq_nil_or_concat rest with rfl | ⟨rest, w, rfl⟩
  · obtain ⟨rfl, hu⟩ := List.append_inj' hvs rfl
    cases hu
    exact ht
  · have hus : us ++ [t] = (vs ++ u :: rest) ++ [w] := by simpa using hvs
    obtain ⟨rfl, -⟩ := List.append_inj' hus rfl
    exact h vs u rest rfl

theorem Fault.unique (h : Fault limit us t e) (h' : Fault limit us t e') : e = e' := by
  cases h <;> cases h' <;> simp_all

theorem FirstFault.unique (h : FirstFault limit ts e) (h' : FirstFault limit ts e') : e = e' := by
  obtain ⟨us, t, rest, rfl, hus, ht⟩ := h
  obtain ⟨us', t', rest', hts, hus', ht'⟩ := h'
  rcases List.append_eq_append_iff.1 hts with ⟨z, rfl, hz⟩ | ⟨z, rfl, hz⟩
  · cases z with
    | nil =>
      cases hz
      rw [List.append_nil] at ht'
      exact ht.unique ht'
    | cons c z =>
      cases hz
      exact absurd ht (hus' us t z rfl e)
  · cases z with
    | nil =>
      cases hz
      rw [List.append_nil] at ht
      exact ht.unique ht'
    | cons c z =>
      cases hz
      exact absurd ht' (hus us' t' z rfl e')

/-- What the conversion knows after tokens without a fault, or which fault it reported. -/
theorem run_reads (limit : Nat) (hc : CallsBracketed ts) (hus : us <+: ts) :
    (∃ bs s, Conversion.run limit {} us = .ok s ∧ Reads limit us bs s ∧ Faultless limit us) ∨
    ∃ e, Conversion.run limit {} us = .error e ∧ FirstFault limit us e := by
  induction us using List.reverseRecOn with
  | nil =>
    refine .inl ⟨[], {}, rfl, ⟨.none .nil, rfl, rfl, Nat.zero_le _, [], .nil, rfl⟩, ?_⟩
    rintro us t rest hus
    simp at hus
  | append_singleton us t ih =>
    have hrun := Conversion.run_append limit {} us [t]
    obtain ⟨bs, s, hs, hreads, hfaultless⟩ | ⟨e, he, hfirst⟩ :=
      ih ((List.prefix_append us [t]).trans hus)
    · have hf : ∀ f, us.getLast? = some (.function f) → t = .leftBracket := by
        intro f hlast
        obtain ⟨x, rfl⟩ := List.getLast?_eq_some_iff.1 hlast
        obtain ⟨rest, rfl⟩ := hus
        simpa using hc x f (t :: rest) (by simp)
      have hstep := hreads.step hf
      rw [hs] at hrun
      cases ht : s.step limit t with
      | error e =>
        rw [ht] at hstep
        exact .inr ⟨e, by simp [hrun, Conversion.run, ht], us, t, [], rfl, hfaultless, hstep⟩
      | ok s' =>
        rw [ht] at hstep
        obtain ⟨⟨cs, hcs⟩, hno⟩ := hstep
        exact .inl ⟨cs, s', by simp [hrun, Conversion.run, ht], hcs, hfaultless.snoc hno⟩
    · exact .inr ⟨e, by simp [hrun, he], hfirst.append [t]⟩

theorem Reported.unique (h : Reported limit ts e) (h' : Reported limit ts e') : e = e' := by
  obtain hfirst | ⟨hfaultless, -, rfl⟩ := h
  · obtain hfirst' | ⟨hfaultless, -⟩ := h'
    · exact hfirst.unique hfirst'
    · exact (hfaultless.not_firstFault hfirst).elim
  · obtain hfirst' | ⟨-, -, rfl⟩ := h'
    · exact (hfaultless.not_firstFault hfirst').elim
    · rfl

theorem Faultless.not_reported (h : Faultless limit ts) (hl : level ts = 0) :
    ¬ Reported limit ts e := by
  rintro (hfirst | ⟨-, hne, -⟩)
  · exact h.not_firstFault hfirst
  · exact hne hl

theorem reversePolish_cases (hc : CallsBracketed ts) (limit : Nat) :
    (∃ out, reversePolish limit ts = .ok out ∧ Faultless limit ts ∧ level ts = 0) ∨
    ∃ e, reversePolish limit ts = .error e ∧ Reported limit ts e := by
  obtain ⟨bs, s, hs, hreads, hfaultless⟩ | ⟨e, he, hfirst⟩ :=
    run_reads limit hc (List.prefix_refl ts)
  · have hf : ∀ f, ts.getLast? ≠ some (.function f) := by
      intro f hlast
      obtain ⟨x, rfl⟩ := List.getLast?_eq_some_iff.1 hlast
      simpa using hc x f [] rfl
    have ho := hreads.waits hf
    have hlevel := hreads.opened.level_eq
    cases bs with
    | nil =>
      obtain ⟨out, hout⟩ := ho.finish_ok s.output
      exact .inl ⟨out, by simp only [reversePolish, hs, hout], hfaultless, hlevel⟩
    | cons b bs =>
      refine .inr ⟨_, by simp only [reversePolish, hs, ho.finish_error], .inr ⟨hfaultless, ?_, rfl⟩⟩
      rw [hlevel, List.length_cons]
      omega
  · exact .inr ⟨e, by simp only [reversePolish, he], .inl hfirst⟩

theorem Faultless.level_bounds (h : Faultless limit ts) (hc : CallsBracketed ts) (hus : us <+: ts) :
    0 ≤ level us ∧ level us ≤ limit := by
  obtain ⟨bs, s, -, hreads, -⟩ | ⟨e, -, hfirst⟩ := run_reads limit hc hus
  · have hlevel := hreads.level_eq
    have hbound := hreads.bound
    omega
  · obtain ⟨rest, rfl⟩ := hus
    exact (h.not_firstFault (hfirst.append rest)).elim

theorem acceptable_iff (hc : CallsBracketed ts) :
    Acceptable limit ts ↔ Faultless limit ts ∧ level ts = 0 := by
  constructor
  · refine fun h => ⟨?_, h.balanced.total⟩
    rintro us t rest rfl e hfault
    have hnext : us ++ [t] <+: us ++ t :: rest := ⟨rest, by simp⟩
    have hlow := h.balanced.before _ hnext
    have hhigh := h.depth _ hnext
    rw [level_append, level_singleton] at hlow hhigh
    cases hfault with
    | tooDeep hl =>
      simp only [hl, Token.turn] at hhigh
      omega
    | beforeComma ha => simp [(h.commas us rest rfl).2] at ha
    | outsideArguments _ hin _ => exact hin (h.commas us rest rfl).1
    | outsideBrackets _ hin _ => exact hin (h.commas us rest rfl).1
    | beforeClosing ha => simp [h.closings us rest rfl] at ha
    | unmatched _ hl =>
      simp only [hl, Token.turn] at hlow
      omega
  · rintro ⟨h, htotal⟩
    refine ⟨⟨htotal, fun us hus => (h.level_bounds hc hus).1⟩,
      fun us hus => (h.level_bounds hc hus).2, fun us rest hts => ?_, fun us rest hts => ?_⟩
    · have hno := h us .comma rest hts
      cases ha : opensArgument us.getLast? with
      | true => exact absurd (.beforeComma ha) (hno _)
      | false =>
        refine ⟨?_, rfl⟩
        by_contra hin
        by_cases hl : level us = 0
        · exact hno _ (.outsideBrackets ha hin hl)
        · exact hno _ (.outsideArguments ha hin hl)
    · cases ha : isComma us.getLast? with
      | true => exact absurd (.beforeClosing ha) (h us .rightBracket rest hts _)
      | false => rfl

theorem Conversion.run_limit {limit' : Nat} {s s' : Conversion} (hl : limit ≤ limit')
    (h : s.run limit ts = .ok s') : s.run limit' ts = .ok s' := by
  induction ts generalizing s with
  | nil => exact h
  | cons t ts ih =>
    obtain ⟨next, hs, hr⟩ := Conversion.run_cons h
    have hstep : s.step limit' t = .ok next := by
      cases t with
      | leftBracket =>
        simp only [step, leftBracket] at hs ⊢
        split at hs
        · cases hs
        · rw [if_neg (by omega)]
          exact hs
      | _ => exact hs
    simp only [run, hstep]
    exact ih hr

theorem reversePolish_limit {limit' : Nat} {out : List Token} (hl : limit ≤ limit')
    (h : reversePolish limit ts = .ok out) : reversePolish limit' ts = .ok out := by
  obtain ⟨s, hs, hf⟩ := reversePolish_run h
  simp only [reversePolish, Conversion.run_limit hl hs, hf]

/-- What the conversion accepts, and which error it reports of the rest. Its limit on depth decides
whether there is an output, not which. -/
theorem reversePolish_brackets (hc : CallsBracketed ts) (limit : Nat) :
    ((∃ out, reversePolish limit ts = .ok out) ↔ Acceptable limit ts) ∧
    (∀ e, reversePolish limit ts = .error e ↔ Reported limit ts e) ∧
    (∀ limit' out, limit ≤ limit' → reversePolish limit ts = .ok out →
      reversePolish limit' ts = .ok out) ∧
    ∀ limit' out out', reversePolish limit ts = .ok out → reversePolish limit' ts = .ok out' →
      out = out' := by
  refine ⟨?_, fun e => ?_, fun limit' out hl => reversePolish_limit hl,
    fun limit' out out' h h' => ?_⟩
  · rw [acceptable_iff hc]
    obtain ⟨out, hout, h⟩ | ⟨e, he, h⟩ := reversePolish_cases hc limit
    · exact ⟨fun _ => h, fun _ => ⟨out, hout⟩⟩
    · rw [he]
      exact ⟨nofun, fun ⟨hfaultless, hl⟩ => (hfaultless.not_reported hl h).elim⟩
  · obtain ⟨out, hout, hfaultless, hl⟩ | ⟨e', he, h⟩ := reversePolish_cases hc limit
    · rw [hout]
      exact ⟨nofun, fun h => (hfaultless.not_reported hl h).elim⟩
    · rw [he, Except.error.injEq]
      exact ⟨fun heq => heq ▸ h, fun h' => h.unique h'⟩
  · rcases Nat.le_total limit limit' with hl | hl
    · rw [reversePolish_limit hl h] at h'
      exact Except.ok.inj h'
    · rw [reversePolish_limit hl h'] at h
      exact (Except.ok.inj h).symm

end

def callTokens (f : Callable) : List Token :=
  [.function f, .leftBracket, .var "x", .comma, .var "y", .rightBracket]

theorem reversePolish_brackets_call : ∃ f : Callable, CallsBracketed (callTokens f) ∧
    Acceptable 1 (callTokens f) ∧ Reported 0 (callTokens f) (.tooDeep 0) := by
  let f : Callable := ⟨"f", 1, true, fun _ => .ok (.text "")⟩
  have hc : CallsBracketed (callTokens f) := by
    rintro us g rest h
    obtain ⟨-, -, rfl⟩ : us = [] ∧ g = f ∧ rest = (callTokens f).tail := by
      simpa [callTokens, List.cons_eq_append_iff] using h
    rfl
  exact ⟨f, hc, (reversePolish_brackets hc 1).1.1 ⟨_, rfl⟩,
    ((reversePolish_brackets hc 0).2.1 _).1 rfl⟩

end Reckoner
