import Reckoner.Proofs.BracketRules
import Reckoner.Proofs.Provenance

/-! The markers that the conversion writes. Each is written for the bracket of a call, and the
function of the call when the bracket is closed, so that markers and functions nest as the brackets
did. A function whose bracket does not come next is written like an operator, and has no marker.
-/

set_option autoImplicit false

namespace Reckoner

/-- Each marker comes with the function of its call. Functions stand alone only if some may. -/
inductive Nested (alone : Prop) : List Token → Prop where
  | nil : Nested alone []
  | other {t : Token} : t.isMarker = false → (∀ f, t ≠ .function f) → Nested alone [t]
  | function (f : Callable) : alone → Nested alone [.function f]
  | call {us : List Token} (f : Callable) : Nested alone us →
      Nested alone (.leftBracket :: (us ++ [.function f]))
  | append {us vs : List Token} : Nested alone us → Nested alone vs → Nested alone (us ++ vs)

/-- What is written while this waits: a marker for each bracket of a call, with nested text before,
between and after them. -/
inductive Pending (alone : Prop) : List Waiting → List Token → Prop where
  | nil {us : List Token} : Nested alone us → Pending alone [] us
  | operator {ws : List Waiting} {us : List Token} (o : Operator) : Pending alone ws us →
      Pending alone (.operator o :: ws) us
  | function {ws : List Waiting} {us : List Token} (f : Callable) : alone → Pending alone ws us →
      Pending alone (.function f :: ws) us
  | bracket {ws : List Waiting} {us : List Token} : atCall ws = false → Pending alone ws us →
      Pending alone (.bracket :: ws) us
  | call {ws : List Waiting} {us vs : List Token} (f : Callable) : Pending alone ws us →
      Nested alone vs → Pending alone (.bracket :: .function f :: ws) (us ++ .leftBracket :: vs)

def Settles (alone : Prop) (s : Conversion) : Prop :=
  ∃ ws, s.waiting = uncalled s.previous ++ ws ∧ Pending alone ws s.output.reverse

/-- The partner of a marker is the place of a function after it. Two markers have two partners, and
a call that begins within another one ends within it. -/
structure Pairing (p : List Token) (partner : Nat → Nat) : Prop where
  function : ∀ i, p[i]? = some .leftBracket →
    i < partner i ∧ ∃ f, p[partner i]? = some (.function f)
  distinct : ∀ i j, p[i]? = some .leftBracket → p[j]? = some .leftBracket →
    partner i = partner j → i = j
  nested : ∀ i j, p[i]? = some .leftBracket → p[j]? = some .leftBracket → i < j →
    partner i < j ∨ partner j < partner i

def EachCalled (p : List Token) (partner : Nat → Nat) : Prop :=
  ∀ j f, p[j]? = some (.function f) → ∃ i, p[i]? = some .leftBracket ∧ partner i = j

section

variable {alone : Prop} {p ts us vs : List Token} {t : Token} {ws : List Waiting}
  {output : List Token} {limit : Nat} {s s' : Conversion} {partner : Nat → Nat}

namespace Pending

theorem append (h : Pending alone ws us) (hv : Nested alone vs) : Pending alone ws (us ++ vs) := by
  induction h with
  | nil hu => exact .nil (hu.append hv)
  | operator o _ ih => exact ih.operator o
  | function f ha _ ih => exact ih.function f ha
  | bracket hc _ ih => exact ih.bracket hc
  | call f h hw =>
    rw [List.append_assoc, List.cons_append]
    exact h.call f (hw.append hv)

theorem kept (alone : Prop) :
    KeptByWriting fun ws output => Pending alone ws output.reverse where
  operator o ws output h := by
    rw [List.reverse_cons]
    cases h with
    | operator _ h => exact h.append (.other rfl nofun)
  function f ws output h := by
    rw [List.reverse_cons]
    cases h with
    | function _ ha h => exact h.append (.function f ha)

theorem closeCall {f : Callable} (h : Pending alone (.bracket :: .function f :: ws) us) :
    Pending alone ws (us ++ [.function f]) := by
  cases h with
  | bracket hc => cases hc
  | call _ h hv =>
    rw [List.append_assoc]
    exact h.append (.call f hv)

theorem closePlain (hc : atCall ws = false) (h : Pending alone (.bracket :: ws) us) :
    Pending alone ws us := by
  cases h with
  | bracket _ h => exact h
  | call => cases hc

theorem openBracket (h : Pending alone ws output.reverse) : Pending alone (.bracket :: ws)
    (if atCall ws then .leftBracket :: output else output).reverse := by
  cases hc : atCall ws with
  | false => exact h.bracket hc
  | true =>
    match ws, hc with
    | .function f :: ws, _ =>
      cases h with
      | function _ _ h =>
        rw [if_pos rfl, List.reverse_cons]
        exact h.call f .nil

end Pending

namespace Settles

theorem settled (h : Settles alone s) (ha : ∀ f, s.previous = some (.function f) → alone) :
    Pending alone s.waiting s.output.reverse := by
  obtain ⟨ws, hw, h⟩ := h
  rw [hw]
  cases hp : s.previous with
  | none => exact h
  | some t =>
    cases t with
    | function f => exact h.function f (ha f hp)
    | _ => exact h

theorem leftBracket (h : Settles alone s) (hs : s.leftBracket limit = .ok s') :
    Settles alone s' := by
  obtain ⟨-, rfl⟩ := Conversion.leftBracket_ok hs
  refine ⟨.bracket :: s.waiting, rfl, ?_⟩
  by_cases hf : ∃ f, s.previous = some (.function f)
  · obtain ⟨f, hf⟩ := hf
    obtain ⟨ws, hw, h⟩ := h
    -- The function that was read last gets its bracket, and its marker at once.
    rw [hf] at hw
    rw [hw]
    simp only [uncalled, List.cons_append, List.nil_append, atCall, if_true, List.reverse_cons]
    exact h.call f .nil
  · exact (h.settled fun f hp => absurd ⟨f, hp⟩ hf).openBracket

theorem operand (h : Pending alone s.waiting s.output.reverse) (ht : t.isOperand = true) :
    Settles alone (s.operand t) := by
  have hu : uncalled (some t) = [] := by cases t <;> first | rfl | cases ht
  have hwritten : Nested alone [t] := by
    refine .other (Token.not_isMarker_of_isKept (by simp [Token.isKept, ht])) ?_
    rintro f rfl
    cases ht
  refine ⟨s.waiting, by simp [Conversion.operand, hu], ?_⟩
  simp only [Conversion.operand, List.reverse_cons]
  exact h.append hwritten

theorem comma (h : Pending alone s.waiting s.output.reverse) (hs : s.comma = .ok s') :
    Settles alone s' := by
  obtain ⟨f, ws, output, ht, rfl⟩ := Conversion.comma_ok hs
  exact ⟨_, rfl, (Pending.kept alone).toBracket h ht⟩

theorem rightBracket (h : Pending alone s.waiting s.output.reverse)
    (hs : s.rightBracket = .ok s') : Settles alone s' := by
  obtain ⟨f, ws, output, ht, rfl⟩ | ⟨ws, output, ht, hc, rfl⟩ := Conversion.rightBracket_ok hs
  · have hbracket := (Pending.kept alone).toBracket h ht
    refine ⟨ws, rfl, ?_⟩
    rw [List.reverse_cons]
    exact hbracket.closeCall
  · have hbracket := (Pending.kept alone).toBracket h ht
    exact ⟨ws, rfl, hbracket.closePlain hc⟩

theorem step (ha : ∀ f, s.previous = some (.function f) → alone ∨ t = .leftBracket)
    (h : Settles alone s) (hs : s.step limit t = .ok s') : Settles alone s' := by
  have hsettled (ht : t ≠ .leftBracket) : Pending alone s.waiting s.output.reverse :=
    h.settled fun f hp => (ha f hp).resolve_right ht
  cases t with
  | number x => cases hs; exact operand (hsettled nofun) rfl
  | text x => cases hs; exact operand (hsettled nofun) rfl
  | var name => cases hs; exact operand (hsettled nofun) rfl
  | identifier name => cases hs; exact operand (hsettled nofun) rfl
  | function f => cases hs; exact ⟨s.waiting, rfl, hsettled nofun⟩
  | operator o =>
    cases hs
    exact ⟨_, rfl, ((Pending.kept alone).release (hsettled nofun) o).operator o⟩
  | leftBracket => exact h.leftBracket hs
  | comma => exact comma (hsettled nofun) hs
  | rightBracket => exact rightBracket (hsettled nofun) hs

end Settles

theorem Conversion.step_previous (hs : s.step limit t = .ok s') : s'.previous = some t := by
  cases t with
  | leftBracket => obtain ⟨-, rfl⟩ := leftBracket_ok hs; rfl
  | comma => obtain ⟨f, ws, output, -, rfl⟩ := comma_ok hs; rfl
  | rightBracket =>
    obtain ⟨f, ws, output, -, rfl⟩ | ⟨ws, output, -, -, rfl⟩ := rightBracket_ok hs
    · rfl
    · rfl
  | _ => cases hs; rfl

theorem CallsBracketed.tail (h : CallsBracketed (t :: ts)) : CallsBracketed ts :=
  fun us f rest hts => h (t :: us) f rest (by rw [hts]; rfl)

theorem Settles.run (hc : alone ∨ CallsBracketed ts)
    (hp : ∀ f, s.previous = some (.function f) → alone ∨ ts.head? = some .leftBracket)
    (h : Settles alone s) (hs : s.run limit ts = .ok s') :
    Pending alone s'.waiting s'.output.reverse := by
  induction ts generalizing s with
  | nil =>
    cases hs
    exact h.settled fun f hf => (hp f hf).resolve_right nofun
  | cons t ts ih =>
    obtain ⟨next, ht, hs⟩ := Conversion.run_cons hs
    refine ih (hc.imp_right .tail) (fun f hf => ?_) (h.step (fun f hf => ?_) ht) hs
    · rw [Conversion.step_previous ht] at hf
      cases hf
      exact hc.imp_right fun hcalls => hcalls [] f ts rfl
    · exact (hp f hf).imp_right fun he => Option.some.inj he

theorem reversePolish_nested (h : reversePolish limit ts = .ok p) :
    Nested (¬ CallsBracketed ts) p := by
  obtain ⟨s, hs, hf⟩ := reversePolish_run h
  have hstart : Settles (¬ CallsBracketed ts) {} := ⟨[], rfl, .nil .nil⟩
  have hend := hstart.run (Classical.em _).symm (fun f hf => by cases hf) hs
  obtain ⟨output, hpending, rfl⟩ := (Pending.kept _).finish hend hf
  cases hpending with
  | nil h => exact h

theorem pairing_of_nested (hf : ∀ i, p[i]? = some .leftBracket →
      i < partner i ∧ ∃ f, p[partner i]? = some (.function f))
    (hn : ∀ i j, p[i]? = some .leftBracket → p[j]? = some .leftBracket → i < j →
      partner i < j ∨ partner j < partner i) : Pairing p partner := by
  refine ⟨hf, fun i j hi hj he => ?_, hn⟩
  have hlater := (hf i hi).1
  have hlater' := (hf j hj).1
  rcases Nat.lt_trichotomy i j with hij | hij | hij
  · have hnested := hn i j hi hj hij
    omega
  · exact hij
  · have hnested := hn j i hj hi hij
    omega

def partnerCall (n : Nat) (partner : Nat → Nat) : Nat → Nat
  | 0 => n + 1
  | i + 1 => partner i + 1

def partnerAppend (n : Nat) (partner partner' : Nat → Nat) (i : Nat) : Nat :=
  if i < n then partner i else n + partner' (i - n)

namespace Pairing

theorem partner_lt (h : Pairing p partner) {i : Nat} (hi : p[i]? = some .leftBracket) :
    partner i < p.length := by
  obtain ⟨-, f, hf⟩ := h.function i hi
  exact (List.getElem?_eq_some_iff.1 hf).1

theorem call (h : Pairing us partner) (f : Callable) :
    Pairing (.leftBracket :: (us ++ [.function f])) (partnerCall us.length partner) := by
  have hinside {i : Nat} (hi : (us ++ [Token.function f])[i]? = some .leftBracket) :
      us[i]? = some .leftBracket := by grind
  refine pairing_of_nested (fun i hi => ?_) (fun i j hi hj hij => ?_)
  · cases i with
    | zero => exact ⟨Nat.succ_pos _, f, by simp [partnerCall]⟩
    | succ i =>
      obtain ⟨hlater, g, hg⟩ := h.function i (hinside hi)
      refine ⟨Nat.succ_lt_succ hlater, g, ?_⟩
      simpa [partnerCall, List.getElem?_append_left (h.partner_lt (hinside hi))] using hg
  · cases j with
    | zero => omega
    | succ j =>
      cases i with
      | zero => exact .inr (Nat.succ_lt_succ (h.partner_lt (hinside hj)))
      | succ i =>
        exact (h.nested i j (hinside hi) (hinside hj) (Nat.lt_of_succ_lt_succ hij)).imp
          Nat.succ_lt_succ Nat.succ_lt_succ

theorem append {partner' : Nat → Nat} (h : Pairing us partner) (h' : Pairing vs partner') :
    Pairing (us ++ vs) (partnerAppend us.length partner partner') := by
  refine pairing_of_nested (fun i hi => ?_) (fun i j hi hj hij => ?_)
  · rcases Nat.lt_or_ge i us.length with hlt | hge
    · rw [List.getElem?_append_left hlt] at hi
      obtain ⟨hlater, f, hf⟩ := h.function i hi
      rw [partnerAppend, if_pos hlt, List.getElem?_append_left (h.partner_lt hi)]
      exact ⟨hlater, f, hf⟩
    · rw [List.getElem?_append_right hge] at hi
      obtain ⟨hlater, f, hf⟩ := h'.function _ hi
      rw [partnerAppend, if_neg (Nat.not_lt.2 hge),
        List.getElem?_append_right (Nat.le_add_right _ _), Nat.add_sub_cancel_left]
      exact ⟨by omega, f, hf⟩
  · simp only [partnerAppend]
    rcases Nat.lt_or_ge j us.length with hlt | hge
    · have hi' : i < us.length := by omega
      rw [List.getElem?_append_left hlt] at hj
      rw [List.getElem?_append_left hi'] at hi
      rw [if_pos hlt, if_pos hi']
      exact h.nested i j hi hj hij
    · rw [List.getElem?_append_right hge] at hj
      rw [if_neg (Nat.not_lt.2 hge)]
      rcases Nat.lt_or_ge i us.length with hi' | hi'
      · rw [List.getElem?_append_left hi'] at hi
        have hlt := h.partner_lt hi
        rw [if_pos hi']
        exact .inl (by omega)
      · rw [List.getElem?_append_right hi'] at hi
        rw [if_neg (Nat.not_lt.2 hi')]
        have hnested := h'.nested _ _ hi hj (by omega)
        omega

end Pairing

namespace EachCalled

theorem call (h : EachCalled us partner) (f : Callable) :
    EachCalled (.leftBracket :: (us ++ [.function f])) (partnerCall us.length partner) := by
  intro j g hj
  cases j with
  | zero => cases hj
  | succ j =>
    rcases Nat.lt_or_ge j us.length with hlt | hge
    · rw [List.getElem?_cons_succ, List.getElem?_append_left hlt] at hj
      obtain ⟨i, hi, rfl⟩ := h j g hj
      refine ⟨i + 1, ?_, rfl⟩
      rw [List.getElem?_cons_succ]
      grind
    · have hlast : j = us.length := by grind
      exact ⟨0, rfl, by rw [hlast]; rfl⟩

theorem append {partner' : Nat → Nat} (h : EachCalled us partner) (h' : EachCalled vs partner') :
    EachCalled (us ++ vs) (partnerAppend us.length partner partner') := by
  intro j f hj
  rcases Nat.lt_or_ge j us.length with hlt | hge
  · rw [List.getElem?_append_left hlt] at hj
    obtain ⟨i, hi, rfl⟩ := h j f hj
    have hlt := (List.getElem?_eq_some_iff.1 hi).1
    refine ⟨i, ?_, if_pos hlt⟩
    rwa [List.getElem?_append_left hlt]
  · rw [List.getElem?_append_right hge] at hj
    obtain ⟨i, hi, hpartner⟩ := h' _ f hj
    refine ⟨us.length + i, ?_, ?_⟩
    · rwa [List.getElem?_append_right (Nat.le_add_right _ _), Nat.add_sub_cancel_left]
    · rw [partnerAppend, if_neg (Nat.not_lt.2 (Nat.le_add_right _ _)), Nat.add_sub_cancel_left,
        hpartner, Nat.add_sub_cancel' hge]

end EachCalled

theorem pairing_single (h : t.isMarker = false) : Pairing [t] id := by
  have hno (i : Nat) : [t][i]? ≠ some .leftBracket := by
    intro hi
    have hm : Token.leftBracket ∈ [t] := List.mem_of_getElem? hi
    rw [← List.mem_singleton.1 hm] at h
    cases h
  exact pairing_of_nested (fun i hi => absurd hi (hno i)) (fun i _ hi => absurd hi (hno i))

/-- Where markers and functions are nested, they can be paired. -/
theorem Nested.pairing (h : Nested alone p) :
    ∃ partner, Pairing p partner ∧ (¬ alone → EachCalled p partner) := by
  induction h with
  | nil => exact ⟨id, pairing_of_nested nofun nofun, fun _ => nofun⟩
  | other hm hf =>
    refine ⟨id, pairing_single hm, fun _ j f hj => ?_⟩
    exact absurd (List.mem_singleton.1 (List.mem_of_getElem? hj)).symm (hf f)
  | function f ha => exact ⟨id, pairing_single rfl, fun hno => absurd ha hno⟩
  | call f _ ih =>
    obtain ⟨partner, h, hcalled⟩ := ih
    exact ⟨_, h.call f, fun ha => (hcalled ha).call f⟩
  | append _ _ ih ih' =>
    obtain ⟨partner, h, hcalled⟩ := ih
    obtain ⟨partner', h', hcalled'⟩ := ih'
    exact ⟨_, h.append h', fun ha => (hcalled ha).append (hcalled' ha)⟩

/-- The conversion loses, doubles and invents nothing. Operands keep their order, and what is
applied stays behind the operands before it. The markers are paired with functions, one for each
function if all functions have their brackets. -/
theorem reversePolish_conserves (h : reversePolish limit ts = .ok p) :
    p.filter (·.isOperand) = ts.filter (·.isOperand) ∧
      (p.filter (·.isApplied)).Perm (ts.filter (·.isApplied)) ∧
      (∃ places, Placement ts p places) ∧
      .rightBracket ∉ p ∧ .comma ∉ p ∧
      ∃ partner, Pairing p partner ∧ (CallsBracketed ts → ∀ j f, p[j]? = some (.function f) →
        ∃! i, p[i]? = some .leftBracket ∧ partner i = j) := by
  obtain ⟨places, hplaces⟩ := reversePolish_placement h
  obtain ⟨partner, hpairing, hcalled⟩ := (reversePolish_nested h).pairing
  refine ⟨hplaces.operands, hplaces.applied, ⟨places, hplaces⟩,
    fun hm => Bool.false_ne_true (hplaces.isKept hm rfl),
    fun hm => Bool.false_ne_true (hplaces.isKept hm rfl), partner, hpairing, fun hc j f hj => ?_⟩
  obtain ⟨i, hi, hij⟩ := hcalled (not_not.2 hc) j f hj
  refine ⟨i, ⟨hi, hij⟩, fun k hk => ?_⟩
  exact hpairing.distinct k i hk.1 hi (hk.2.trans hij.symm)

end

theorem reversePolish_conserves_call : ∃ f : Callable,
    reversePolish 1 (callTokens f) = .ok [.leftBracket, .var "x", .var "y", .function f] ∧
      ∃ partner, Pairing [.leftBracket, .var "x", .var "y", .function f] partner ∧
        partner 0 = 3 := by
  let f : Callable := ⟨"f", 1, true, fun _ => .ok (.text "")⟩
  have h : reversePolish 1 (callTokens f) = .ok [.leftBracket, .var "x", .var "y", .function f] :=
    rfl
  obtain ⟨-, -, -, -, -, partner, hpairing, -⟩ := reversePolish_conserves h
  refine ⟨f, h, partner, hpairing, ?_⟩
  obtain ⟨-, g, hg⟩ := hpairing.function 0 rfl
  match hp : partner 0, hg with
  | 3, _ => rfl

end Reckoner
