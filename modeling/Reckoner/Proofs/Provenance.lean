import Reckoner.Proofs.Conversion

/-! Where the written tokens come from. The operands, operators and functions that were read carry
the places at which they stood; each is written once or waits, and no operand is written after one
that was read later. What else is written are the markers of calls.
-/

set_option autoImplicit false

namespace Reckoner

namespace Token

def isOperand : Token → Bool
  | number _ | text _ | var _ | identifier _ => true
  | _ => false

def isApplied : Token → Bool
  | operator _ | function _ => true
  | _ => false

def isMarker : Token → Bool
  | leftBracket => true
  | _ => false

def isKept (t : Token) : Bool := t.isOperand || t.isApplied

end Token

/-- The kept tokens of a written text with the places at which they were read. An operand that was
read before another token is written before it. -/
structure Placement (ts p : List Token) (places : List (Token × Nat)) : Prop where
  tokens : places.map (·.1) = p.filter (!·.isMarker)
  read : places.Perm (ts.zipIdx.filter (·.1.isKept))
  order : places.Pairwise fun x y => y.1.isOperand = true → x.2 < y.2

/-- The kept tokens that are written, last first, and those that wait, with their places. -/
structure Account (ts : List Token) (ws : List Waiting) (output : List Token)
    (written waits : List (Token × Nat)) : Prop where
  output : written.map (·.1) = output.filter (!·.isMarker)
  waiting : waits.map (·.1) = (ws.map (·.token)).filter (!·.isMarker)
  read : (written ++ waits).Perm (ts.zipIdx.filter (·.1.isKept))
  order : written.Pairwise fun x y => x.1.isOperand = true → y.2 < x.2

def Accounted (ts : List Token) (ws : List Waiting) (output : List Token) : Prop :=
  ∃ written waits, Account ts ws output written waits

section

variable {ts p : List Token} {t : Token} {w : Waiting} {ws : List Waiting} {output : List Token}
  {written waits places : List (Token × Nat)} {limit : Nat} {s s' : Conversion}

theorem zipIdx_pairwise (ts : List Token) (n : Nat) :
    (ts.zipIdx n).Pairwise fun x y => x.2 < y.2 := by
  induction ts generalizing n with
  | nil => exact .nil
  | cons t ts ih =>
    refine List.pairwise_cons.2 ⟨fun x hx => ?_, ih (n + 1)⟩
    exact List.le_snd_of_mem_zipIdx hx

theorem zipIdx_snoc (ts : List Token) (t : Token) :
    (ts ++ [t]).zipIdx.filter (·.1.isKept) =
      ts.zipIdx.filter (·.1.isKept) ++ if t.isKept then [(t, ts.length)] else [] := by
  rw [List.zipIdx_append, List.filter_append]
  cases h : t.isKept <;> simp [h]

theorem Token.not_isMarker_of_isKept (h : t.isKept = true) : t.isMarker = false := by
  cases t <;> first | rfl | cases h

theorem Token.not_isOperand_of_isApplied (h : t.isApplied = true) : t.isOperand = false := by
  cases t <;> first | rfl | cases h

theorem Account.place_lt (h : Account ts ws output written waits) :
    ∀ x ∈ written ++ waits, x.2 < ts.length := by
  intro x hx
  have hmem := (List.mem_filter.1 (h.read.subset hx)).1
  exact (List.mem_zipIdx' hmem).1

namespace Accounted

theorem write (ha : w.token.isApplied = true) (h : Accounted ts (w :: ws) output) :
    Accounted ts ws (w.token :: output) := by
  obtain ⟨written, waits, h⟩ := h
  have hmarker : w.token.isMarker = false :=
    Token.not_isMarker_of_isKept (by simp [Token.isKept, ha])
  have hwaiting := h.waiting
  simp only [List.map_cons, List.filter_cons, hmarker, Bool.not_false, if_true] at hwaiting
  obtain ⟨x, waits, rfl, hx, hrest⟩ := List.map_eq_cons_iff.1 hwaiting
  refine ⟨x :: written, waits, by simp [hx, hmarker, h.output], hrest, ?_, ?_⟩
  · exact List.perm_middle.symm.trans h.read
  · refine List.pairwise_cons.2 ⟨fun y _ ho => ?_, h.order⟩
    rw [hx, Token.not_isOperand_of_isApplied ha] at ho
    cases ho

theorem kept (ts : List Token) : KeptByWriting (Accounted ts) where
  operator o _ _ h := h.write (w := .operator o) rfl
  function f _ _ h := h.write (w := .function f) rfl

theorem bracket_iff : Accounted ts (.bracket :: ws) output ↔ Accounted ts ws output := by
  constructor
  · rintro ⟨written, waits, h⟩
    exact ⟨written, waits, h.output, h.waiting, h.read, h.order⟩
  · rintro ⟨written, waits, h⟩
    exact ⟨written, waits, h.output, h.waiting, h.read, h.order⟩

theorem marker (h : Accounted ts ws output) : Accounted ts ws (.leftBracket :: output) := by
  obtain ⟨written, waits, h⟩ := h
  exact ⟨written, waits, h.output, h.waiting, h.read, h.order⟩

theorem skip (ht : t.isKept = false) (h : Accounted ts ws output) :
    Accounted (ts ++ [t]) ws output := by
  obtain ⟨written, waits, h⟩ := h
  refine ⟨written, waits, h.output, h.waiting, ?_, h.order⟩
  simpa [zipIdx_snoc, ht] using h.read

theorem emit (ht : t.isOperand = true) (h : Accounted ts ws output) :
    Accounted (ts ++ [t]) ws (t :: output) := by
  obtain ⟨written, waits, h⟩ := h
  have hk : t.isKept = true := by simp [Token.isKept, ht]
  have hm := Token.not_isMarker_of_isKept hk
  refine ⟨(t, ts.length) :: written, waits, by simp [hm, h.output], h.waiting, ?_, ?_⟩
  · rw [zipIdx_snoc, if_pos hk]
    exact (h.read.cons _).trans (List.perm_append_singleton _ _).symm
  · refine List.pairwise_cons.2 ⟨fun x hx _ => ?_, h.order⟩
    exact h.place_lt x (List.mem_append_left _ hx)

theorem wait (ha : w.token.isApplied = true) (h : Accounted ts ws output) :
    Accounted (ts ++ [w.token]) (w :: ws) output := by
  obtain ⟨written, waits, h⟩ := h
  have hk : w.token.isKept = true := by simp [Token.isKept, ha]
  have hm := Token.not_isMarker_of_isKept hk
  refine ⟨written, (w.token, ts.length) :: waits, h.output, by simp [hm, h.waiting], ?_, h.order⟩
  rw [zipIdx_snoc, if_pos hk]
  exact List.perm_middle.trans ((h.read.cons _).trans (List.perm_append_singleton _ _).symm)

theorem step (h : Accounted ts s.waiting s.output) (hs : s.step limit t = .ok s') :
    Accounted (ts ++ [t]) s'.waiting s'.output := by
  cases t with
  | number x => cases hs; exact h.emit rfl
  | text x => cases hs; exact h.emit rfl
  | var name => cases hs; exact h.emit rfl
  | identifier name => cases hs; exact h.emit rfl
  | function f => cases hs; exact h.wait (w := .function f) rfl
  | operator o => cases hs; exact ((kept ts).release h o).wait (w := .operator o) rfl
  | leftBracket =>
    obtain ⟨-, rfl⟩ := Conversion.leftBracket_ok hs
    refine (bracket_iff.2 ?_).skip rfl
    split
    · exact h.marker
    · exact h
  | comma =>
    obtain ⟨f, ws, output, ht, rfl⟩ := Conversion.comma_ok hs
    exact ((kept ts).toBracket h ht).skip rfl
  | rightBracket =>
    obtain ⟨f, ws, output, ht, rfl⟩ | ⟨ws, output, ht, -, rfl⟩ := Conversion.rightBracket_ok hs
    · exact ((bracket_iff.1 ((kept ts).toBracket h ht)).write (w := .function f) rfl).skip rfl
    · exact (bracket_iff.1 ((kept ts).toBracket h ht)).skip rfl

theorem run {us : List Token} (h : Accounted ts s.waiting s.output)
    (hs : s.run limit us = .ok s') : Accounted (ts ++ us) s'.waiting s'.output := by
  induction us generalizing ts s with
  | nil =>
    cases hs
    rwa [List.append_nil]
  | cons t us ih =>
    obtain ⟨next, ht, hs⟩ := Conversion.run_cons hs
    rw [List.append_cons]
    exact ih (h.step ht) hs

end Accounted

/-- Each kept token is written in a place of its own. -/
theorem reversePolish_placement (h : reversePolish limit ts = .ok p) :
    ∃ places, Placement ts p places := by
  obtain ⟨s, hs, hf⟩ := reversePolish_run h
  have hstart : Accounted [] ({} : Conversion).waiting ({} : Conversion).output :=
    ⟨[], [], rfl, rfl, .nil, .nil⟩
  obtain ⟨output, ⟨written, waits, hend⟩, rfl⟩ := (Accounted.kept _).finish (hstart.run hs) hf
  obtain rfl : waits = [] := List.map_eq_nil_iff.1 hend.waiting
  refine ⟨written.reverse, ?_, ?_, ?_⟩
  · rw [List.map_reverse, hend.output, List.filter_reverse]
  · have hread := hend.read
    rw [List.append_nil] at hread
    exact (List.reverse_perm written).trans hread
  · exact List.pairwise_reverse.2 hend.order

namespace Placement

variable {q : Token → Bool}

theorem filter_written (h : Placement ts p places) (hq : ∀ t, q t = true → t.isKept = true) :
    p.filter q = (places.filter (q ·.1)).map (·.1) := by
  have hkept : ∀ t ∈ p, q t = (!t.isMarker && q t) := by
    intro t _
    cases ht : q t with
    | false => rw [Bool.and_false]
    | true => rw [Token.not_isMarker_of_isKept (hq t ht)]; rfl
  calc p.filter q = (p.filter (!·.isMarker)).filter q := by
        rw [List.filter_filter]
        exact List.filter_congr fun t ht => by rw [Bool.and_comm, ← hkept t ht]
    _ = (places.map (·.1)).filter q := by rw [h.tokens]
    _ = (places.filter (q ·.1)).map (·.1) := List.filter_map

theorem filter_read (hq : ∀ t, q t = true → t.isKept = true) :
    ts.filter q = ((ts.zipIdx.filter (·.1.isKept)).filter (q ·.1)).map (·.1) := by
  have hkept : ∀ x ∈ ts.zipIdx, q x.1 = (q x.1 && x.1.isKept) := by
    intro x _
    cases hx : q x.1 with
    | false => rfl
    | true => rw [hq x.1 hx]; rfl
  calc ts.filter q = (ts.zipIdx.map (·.1)).filter q := by rw [List.zipIdx_map_fst]
    _ = (ts.zipIdx.filter (q ·.1)).map (·.1) := List.filter_map
    _ = ((ts.zipIdx.filter (·.1.isKept)).filter (q ·.1)).map (·.1) := by
        rw [List.filter_filter]
        exact congrArg _ (List.filter_congr hkept)

/-- The operands are written in the order in which they were read. -/
theorem operands (h : Placement ts p places) :
    p.filter (·.isOperand) = ts.filter (·.isOperand) := by
  have hkept : ∀ t : Token, t.isOperand = true → t.isKept = true := by
    intro t ht
    rw [Token.isKept, ht, Bool.true_or]
  rw [h.filter_written hkept, filter_read hkept]
  have hwritten : (places.filter (·.1.isOperand)).Pairwise fun x y => x.2 < y.2 :=
    List.pairwise_filter.2 (h.order.imp fun hxy _ hy => hxy hy)
  have hread : ((ts.zipIdx.filter (·.1.isKept)).filter (·.1.isOperand)).Pairwise
      fun x y => x.2 < y.2 :=
    ((zipIdx_pairwise ts 0).filter _).filter _
  refine congrArg _ (List.Perm.eq_of_pairwise ?_ hwritten hread (h.read.filter _))
  exact fun x y _ _ hxy hyx => absurd hxy (Nat.lt_asymm hyx)

theorem applied (h : Placement ts p places) :
    (p.filter (·.isApplied)).Perm (ts.filter (·.isApplied)) := by
  have hkept : ∀ t : Token, t.isApplied = true → t.isKept = true := by
    intro t ht
    rw [Token.isKept, ht, Bool.or_true]
  rw [h.filter_written hkept, filter_read hkept]
  exact (h.read.filter _).map _

theorem isKept (h : Placement ts p places) (ht : t ∈ p) (hm : t.isMarker = false) :
    t.isKept = true := by
  have hplace : t ∈ places.map (·.1) := by
    rw [h.tokens]
    exact List.mem_filter.2 ⟨ht, by rw [hm]; rfl⟩
  obtain ⟨x, hx, rfl⟩ := List.mem_map.1 hplace
  exact (List.mem_filter.1 (h.read.subset hx)).2

end Placement

end

end Reckoner
