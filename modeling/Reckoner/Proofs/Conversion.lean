import Reckoner.Proofs.Tree
import Reckoner.ReversePolish

set_option autoImplicit false

namespace Reckoner

theorem release_operators {o : Operator} {xs : List Operator}
    (h : ∀ x ∈ xs, o.popsBefore x = true) (ws : List Waiting) (output : List Token) :
    release o (xs.map .operator ++ ws) output =
      release o ws ((xs.map .operator).reverse ++ output) := by
  induction xs generalizing output with
  | nil => rfl
  | cons x xs ih =>
    have hx : o.popsBefore x = true := h x List.mem_cons_self
    have hxs := ih (fun y hy => h y (List.mem_cons_of_mem x hy)) (.operator x :: output)
    simp only [List.map_cons, List.cons_append, release, hx, if_true, hxs, List.reverse_cons,
      List.append_assoc, List.nil_append]

theorem toBracket_operators (xs : List Operator) (ws : List Waiting) (output : List Token) :
    toBracket (xs.map .operator ++ ws) output =
      toBracket ws ((xs.map .operator).reverse ++ output) := by
  induction xs generalizing output with
  | nil => rfl
  | cons x xs ih =>
    simp only [List.map_cons, List.cons_append, toBracket, ih, List.reverse_cons,
      List.append_assoc, List.nil_append]

theorem finish_operators (xs : List Operator) (ws : List Waiting) (output : List Token) :
    finish (xs.map .operator ++ ws) output =
      finish ws ((xs.map .operator).reverse ++ output) := by
  induction xs generalizing output with
  | nil => rfl
  | cons x xs ih =>
    simp only [List.map_cons, List.cons_append, finish, ih, List.reverse_cons,
      List.append_assoc, List.nil_append]

namespace Conversion

variable {s : Conversion} {ws : List Waiting} {output : List Token} {f : Callable} {limit : Nat}

theorem step_atom (limit : Nat) (s : Conversion) (a : Atom) :
    s.step limit a.token = .ok (s.operand a.token) := by
  cases a <;> rfl

theorem leftBracket_tooDeep (h : limit < s.depth + 1) :
    s.leftBracket limit = .error (.tooDeep limit) := if_pos h

theorem leftBracket_plain (h : s.depth + 1 ≤ limit) (hc : atCall s.waiting = false) :
    s.leftBracket limit =
      .ok ⟨s.output, .bracket :: s.waiting, s.depth + 1, some .leftBracket⟩ := by
  simp [leftBracket, hc, Nat.not_lt.2 h]

theorem leftBracket_call (h : s.depth + 1 ≤ limit) (hw : s.waiting = .function f :: ws) :
    s.leftBracket limit =
      .ok ⟨.leftBracket :: s.output, .bracket :: .function f :: ws, s.depth + 1,
        some .leftBracket⟩ := by
  simp [leftBracket, hw, atCall, Nat.not_lt.2 h]

theorem rightBracket_plain (hp : s.afterComma = false)
    (ht : toBracket s.waiting s.output = some (ws, output)) (hc : atCall ws = false) :
    s.rightBracket = .ok ⟨output, ws, s.depth - 1, some .rightBracket⟩ := by
  simp only [rightBracket, hp, ht]
  rcases ws with _ | ⟨p | f | _, ws⟩
  · rfl
  · rfl
  · cases hc
  · rfl

theorem rightBracket_call (hp : s.afterComma = false)
    (ht : toBracket s.waiting s.output = some (.function f :: ws, output)) :
    s.rightBracket = .ok ⟨.function f :: output, ws, s.depth - 1, some .rightBracket⟩ := by
  simp [rightBracket, hp, ht]

theorem comma_call (hb : s.afterLeftBracket = false) (hp : s.afterComma = false)
    (ht : toBracket s.waiting s.output = some (.function f :: ws, output)) :
    s.comma = .ok { s with
      output, waiting := .bracket :: .function f :: ws, previous := some .comma } := by
  simp [comma, hb, hp, ht, atCall]

theorem leftBracket_ok {s' : Conversion} (h : s.leftBracket limit = .ok s') :
    s.depth + 1 ≤ limit ∧
      s' = ⟨if atCall s.waiting then .leftBracket :: s.output else s.output,
        .bracket :: s.waiting, s.depth + 1, some .leftBracket⟩ := by
  simp only [leftBracket] at h
  split at h
  · cases h
  · next hd =>
    cases h
    exact ⟨Nat.not_lt.1 hd, rfl⟩

theorem comma_after {s' : Conversion} (h : s.comma = .ok s') :
    s.afterLeftBracket = false ∧ s.afterComma = false := by
  simp only [comma] at h
  split at h
  · cases h
  · next hp => simpa using hp

/-- A comma writes what waits above the bracket of a call, and leaves the bracket. -/
theorem comma_ok {s' : Conversion} (h : s.comma = .ok s') :
    ∃ f ws output, toBracket s.waiting s.output = some (.function f :: ws, output) ∧
      s' = { s with
        output, waiting := .bracket :: .function f :: ws, previous := some .comma } := by
  simp only [comma] at h
  split at h
  · cases h
  · split at h
    · cases h
    · next ws output ht =>
      split at h
      · next hc =>
        cases h
        match ws, hc with
        | .function f :: ws, _ => exact ⟨f, ws, output, ht, rfl⟩
      · cases h

theorem rightBracket_after {s' : Conversion} (h : s.rightBracket = .ok s') :
    s.afterComma = false := by
  simp only [rightBracket] at h
  split at h
  · cases h
  · next hp => simpa using hp

/-- A right bracket writes what waits above a bracket, and the function of its call. -/
theorem rightBracket_ok {s' : Conversion} (h : s.rightBracket = .ok s') :
    (∃ f ws output, toBracket s.waiting s.output = some (.function f :: ws, output) ∧
      s' = ⟨.function f :: output, ws, s.depth - 1, some .rightBracket⟩) ∨
    ∃ ws output, toBracket s.waiting s.output = some (ws, output) ∧ atCall ws = false ∧
      s' = ⟨output, ws, s.depth - 1, some .rightBracket⟩ := by
  simp only [rightBracket] at h
  split at h
  · cases h
  · split at h
    · cases h
    · next f ws output ht =>
      cases h
      exact .inl ⟨f, ws, output, ht, rfl⟩
    · next ws output hno ht =>
      cases h
      refine .inr ⟨ws, output, ht, ?_, rfl⟩
      rcases ws with _ | ⟨p | f | _, ws⟩
      · rfl
      · rfl
      · exact absurd rfl (hno f ws)
      · rfl

end Conversion

/-- What is kept when the operator or function on top is written. -/
structure KeptByWriting (I : List Waiting → List Token → Prop) : Prop where
  operator : ∀ o ws output, I (.operator o :: ws) output → I ws (.operator o :: output)
  function : ∀ f ws output, I (.function f :: ws) output → I ws (.function f :: output)

namespace KeptByWriting

variable {I : List Waiting → List Token → Prop} {ws ws' : List Waiting}
  {output output' : List Token}

theorem release (hI : KeptByWriting I) (h : I ws output) (o : Operator) :
    I (release o ws output).1 (release o ws output).2 := by
  induction ws generalizing output with
  | nil => exact h
  | cons w ws ih =>
    cases w with
    | function f => exact h
    | bracket => exact h
    | operator p =>
      simp only [Reckoner.release]
      split
      · exact ih (hI.operator p ws output h)
      · exact h

theorem toBracket (hI : KeptByWriting I) (h : I ws output)
    (ht : toBracket ws output = some (ws', output')) : I (.bracket :: ws') output' := by
  induction ws generalizing output with
  | nil => cases ht
  | cons w ws ih =>
    cases w with
    | operator o => exact ih (hI.operator o ws output h) ht
    | function f => exact ih (hI.function f ws output h) ht
    | bracket =>
      cases ht
      exact h

theorem finish (hI : KeptByWriting I) (h : I ws output) {out : List Token}
    (hf : finish ws output = .ok out) : ∃ written, I [] written ∧ out = written.reverse := by
  induction ws generalizing output with
  | nil =>
    cases hf
    exact ⟨output, h, rfl⟩
  | cons w ws ih =>
    cases w with
    | operator o => exact ih (hI.operator o ws output h) hf
    | function f => exact ih (hI.function f ws output h) hf
    | bracket => cases hf

end KeptByWriting

/-- All that waits and all that is written is among these tokens. -/
def Among (P : Token → Prop) (ws : List Waiting) (output : List Token) : Prop :=
  (∀ w ∈ ws, P w.token) ∧ ∀ t ∈ output, P t

namespace Among

variable {P : Token → Prop} {ws : List Waiting} {output : List Token}

theorem write {w : Waiting} (h : Among P (w :: ws) output) : Among P ws (w.token :: output) := by
  obtain ⟨hw, ho⟩ := h
  obtain ⟨hhead, htail⟩ := List.forall_mem_cons.1 hw
  exact ⟨htail, List.forall_mem_cons.2 ⟨hhead, ho⟩⟩

theorem below {w : Waiting} (h : Among P (w :: ws) output) : Among P ws output :=
  ⟨(List.forall_mem_cons.1 h.1).2, h.2⟩

theorem wait {w : Waiting} (hw : P w.token) (h : Among P ws output) :
    Among P (w :: ws) output :=
  ⟨List.forall_mem_cons.2 ⟨hw, h.1⟩, h.2⟩

theorem emit {t : Token} (ht : P t) (h : Among P ws output) : Among P ws (t :: output) :=
  ⟨h.1, List.forall_mem_cons.2 ⟨ht, h.2⟩⟩

theorem kept (P : Token → Prop) : KeptByWriting (Among P) where
  operator _ _ _ h := h.write
  function _ _ _ h := h.write

end Among

namespace Conversion

variable {P : Token → Prop} {limit : Nat} {s s' : Conversion}

theorem among_leftBracket (hb : P .leftBracket) (h : Among P s.waiting s.output)
    (hs : s.leftBracket limit = .ok s') : Among P s'.waiting s'.output := by
  obtain ⟨-, rfl⟩ := leftBracket_ok hs
  refine Among.wait hb ?_
  split
  · exact h.emit hb
  · exact h

theorem among_comma (h : Among P s.waiting s.output) (hs : s.comma = .ok s') :
    Among P s'.waiting s'.output := by
  obtain ⟨f, ws, output, ht, rfl⟩ := comma_ok hs
  exact (Among.kept P).toBracket h ht

theorem among_rightBracket (h : Among P s.waiting s.output) (hs : s.rightBracket = .ok s') :
    Among P s'.waiting s'.output := by
  obtain ⟨f, ws, output, ht, rfl⟩ | ⟨ws, output, ht, -, rfl⟩ := rightBracket_ok hs
  · exact ((Among.kept P).toBracket h ht).below.write
  · exact ((Among.kept P).toBracket h ht).below

theorem among_step {t : Token} (hb : P .leftBracket) (ht : P t) (h : Among P s.waiting s.output)
    (hs : s.step limit t = .ok s') : Among P s'.waiting s'.output := by
  cases t with
  | number x => cases hs; exact h.emit ht
  | text x => cases hs; exact h.emit ht
  | var name => cases hs; exact h.emit ht
  | identifier name => cases hs; exact h.emit ht
  | function f => cases hs; exact Among.wait (w := .function f) ht h
  | operator o => cases hs; exact Among.wait (w := .operator o) ht ((Among.kept P).release h o)
  | leftBracket => exact among_leftBracket hb h hs
  | comma => exact among_comma h hs
  | rightBracket => exact among_rightBracket h hs

theorem run_cons {t : Token} {ts : List Token} (h : s.run limit (t :: ts) = .ok s') :
    ∃ next, s.step limit t = .ok next ∧ next.run limit ts = .ok s' := by
  simp only [run] at h
  cases hs : s.step limit t with
  | error e => rw [hs] at h; cases h
  | ok next => rw [hs] at h; exact ⟨next, rfl, h⟩

theorem run_map {F : Conversion → Conversion} {g : Token → Token}
    (h : ∀ s t, (F s).step limit (g t) = (s.step limit t).map F) (s : Conversion)
    (ts : List Token) : (F s).run limit (ts.map g) = (s.run limit ts).map F := by
  induction ts generalizing s with
  | nil => rfl
  | cons t ts ih =>
    simp only [List.map_cons, run, h]
    cases s.step limit t with
    | error e => rfl
    | ok next => exact ih next

theorem among_run {ts : List Token} (hb : P .leftBracket) (ht : ∀ t ∈ ts, P t)
    (h : Among P s.waiting s.output) (hr : s.run limit ts = .ok s') :
    Among P s'.waiting s'.output := by
  induction ts generalizing s with
  | nil =>
    cases hr
    exact h
  | cons t ts ih =>
    obtain ⟨htt, hts⟩ := List.forall_mem_cons.1 ht
    obtain ⟨next, hs, hr⟩ := run_cons hr
    exact ih hts (among_step hb htt h hs) hr

end Conversion

theorem reversePolish_run {limit : Nat} {ts out : List Token}
    (h : reversePolish limit ts = .ok out) :
    ∃ s, Conversion.run limit {} ts = .ok s ∧ finish s.waiting s.output = .ok out := by
  simp only [reversePolish] at h
  cases hs : Conversion.run limit {} ts with
  | error e => rw [hs] at h; cases h
  | ok s => rw [hs] at h; exact ⟨s, rfl, h⟩

/-- The conversion writes no other tokens than it reads. -/
theorem reversePolish_among {P : Token → Prop} {limit : Nat} {ts out : List Token}
    (hb : P .leftBracket) (ht : ∀ t ∈ ts, P t) (h : reversePolish limit ts = .ok out) :
    ∀ t ∈ out, P t := by
  obtain ⟨s, hs, hf⟩ := reversePolish_run h
  have hempty : Among P ({} : Conversion).waiting ({} : Conversion).output :=
    ⟨List.forall_mem_nil _, List.forall_mem_nil _⟩
  obtain ⟨written, hwritten, rfl⟩ :=
    (Among.kept P).finish (Conversion.among_run hb ht hempty hs) hf
  exact fun t ht => hwritten.2 t (List.mem_reverse.1 ht)

end Reckoner
