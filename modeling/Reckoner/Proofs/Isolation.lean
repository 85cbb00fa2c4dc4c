import Reckoner.Builtin
import Reckoner.Proofs.Markers

set_option autoImplicit false

namespace Reckoner

def openings (ts : List Token) : Nat := ts.countP (·.isMarker)

def bracketed (before content after : List Token) : List Token :=
  before ++ .leftBracket :: (content ++ .rightBracket :: after)

def Waiting.isBracket : Waiting → Bool
  | bracket => true
  | _ => false

def openBrackets (ws : List Waiting) : Nat := ws.countP (·.isBracket)

theorem openings_cons (t : Token) (ts : List Token) :
    openings (t :: ts) = openings [t] + openings ts := @List.countP_append _ Token.isMarker [t] ts

namespace Conversion

def above (written : List Token) (s : Conversion) : Conversion :=
  { s with output := s.output ++ written }

/-- The same state after a bracket, at this depth, with something waiting below the bracket. -/
def inside (outer : List Waiting) (depth : Nat) (s : Conversion) : Conversion where
  output := s.output
  waiting := s.waiting ++ .bracket :: outer
  depth := s.depth + depth
  previous := s.previous.or (some .leftBracket)

def group (b : List Token) (s : Conversion) : Conversion :=
  match s.waiting with
  | .function f :: ws =>
    ⟨.function f :: (b.reverse ++ .leftBracket :: s.output), ws, s.depth, some .rightBracket⟩
  | ws => ⟨b.reverse ++ s.output, ws, s.depth, some .rightBracket⟩

/-- What is written when the tokens are read from this state to the end. -/
def complete (limit : Nat) (s : Conversion) (ts : List Token) : Except Error (List Token) :=
  match s.run limit ts with
  | .error e => .error e
  | .ok s => finish s.waiting s.output

/-- The depth is that of the open brackets. A comma leaves its bracket on top. -/
structure Consistent (s : Conversion) : Prop where
  depth : s.depth = openBrackets s.waiting
  comma : s.afterComma = true → ∃ ws, s.waiting = .bracket :: ws
  start : s.previous = none → s.waiting = []

end Conversion

section

variable {limit limit' : Nat} {ts : List Token} {t : Token} {ws ws' : List Waiting}
  {output output' written b : List Token} {s s' : Conversion} {outer : List Waiting} {depth : Nat}

theorem toBracket_above (ws : List Waiting) (output written : List Token) :
    toBracket ws (output ++ written) =
      (toBracket ws output).map fun x => (x.1, x.2 ++ written) := by
  induction ws generalizing output with
  | nil => rfl
  | cons w ws ih =>
    cases w with
    | operator o => exact ih (.operator o :: output)
    | function f => exact ih (.function f :: output)
    | bracket => rfl

theorem release_above (o : Operator) (ws : List Waiting) (output written : List Token) :
    release o ws (output ++ written) =
      ((release o ws output).1, (release o ws output).2 ++ written) := by
  induction ws generalizing output with
  | nil => rfl
  | cons w ws ih =>
    cases w with
    | function f => rfl
    | bracket => rfl
    | operator p =>
      simp only [release]
      split
      · exact ih (.operator p :: output)
      · rfl

theorem finish_above (ws : List Waiting) (output written : List Token) :
    finish ws (output ++ written) = (finish ws output).map (written.reverse ++ ·) := by
  induction ws generalizing output with
  | nil => simp only [finish, Except.map, List.reverse_append]
  | cons w ws ih =>
    cases w with
    | operator o => exact ih (.operator o :: output)
    | function f => exact ih (.function f :: output)
    | bracket => rfl

namespace Conversion

theorem leftBracket_above (limit : Nat) (written : List Token) (s : Conversion) :
    (s.above written).leftBracket limit = (s.leftBracket limit).map (above written) := by
  have hd : (s.above written).depth = s.depth := rfl
  have hw : (s.above written).waiting = s.waiting := rfl
  simp only [leftBracket, hd, hw]
  split
  · rfl
  · cases atCall s.waiting <;> rfl

theorem comma_above (written : List Token) (s : Conversion) :
    (s.above written).comma = s.comma.map (above written) := by
  have hafter : (s.above written).afterComma = s.afterComma ∧
      (s.above written).afterLeftBracket = s.afterLeftBracket := ⟨rfl, rfl⟩
  have hb : toBracket (s.above written).waiting (s.above written).output = _ :=
    toBracket_above s.waiting s.output written
  simp only [comma, hafter.1, hafter.2, hb]
  split
  · rfl
  · cases toBracket s.waiting s.output with
    | none => rfl
    | some x =>
      simp only [Option.map_some]
      cases atCall x.1 <;> rfl

theorem rightBracket_above (written : List Token) (s : Conversion) :
    (s.above written).rightBracket = s.rightBracket.map (above written) := by
  have hafter : (s.above written).afterComma = s.afterComma := rfl
  have hb : toBracket (s.above written).waiting (s.above written).output = _ :=
    toBracket_above s.waiting s.output written
  simp only [rightBracket, hafter, hb]
  split
  · rfl
  · rcases toBracket s.waiting s.output with _ | ⟨_ | ⟨o | f | _, ws⟩, output⟩ <;> rfl

theorem operator_above (o : Operator) (written : List Token) (s : Conversion) :
    (s.above written).operator o = (s.operator o).above written := by
  have hr : release o (s.above written).waiting (s.above written).output = _ :=
    release_above o s.waiting s.output written
  simp only [operator, hr]
  rfl

theorem step_above (limit : Nat) (written : List Token) (s : Conversion) (t : Token) :
    (s.above written).step limit t = (s.step limit t).map (above written) := by
  cases t with
  | leftBracket => exact leftBracket_above limit written s
  | comma => exact comma_above written s
  | rightBracket => exact rightBracket_above written s
  | operator o => exact congrArg Except.ok (operator_above o written s)
  | _ => rfl

theorem run_above (limit : Nat) (written : List Token) (s : Conversion) (ts : List Token) :
    (s.above written).run limit ts = (s.run limit ts).map (above written) := by
  have hrun := run_map (g := id) (fun s t => step_above limit written s t) s ts
  rwa [List.map_id] at hrun

theorem complete_above (limit : Nat) (written : List Token) (s : Conversion) (ts : List Token) :
    (s.above written).complete limit ts =
      (s.complete limit ts).map (written.reverse ++ ·) := by
  simp only [complete, run_above]
  cases s.run limit ts with
  | error e => rfl
  | ok next => exact finish_above next.waiting next.output written

end Conversion

theorem openBrackets_bracket (ws : List Waiting) :
    openBrackets (.bracket :: ws) = openBrackets ws + 1 := by
  simp [openBrackets, Waiting.isBracket]

theorem openBrackets_kept (n : Nat) : KeptByWriting fun ws _ => openBrackets ws = n where
  operator _ _ _ h := h
  function _ _ _ h := h

theorem openBrackets_toBracket (h : toBracket ws output = some (ws', output')) :
    openBrackets ws = openBrackets ws' + 1 := by
  have hbracket := (openBrackets_kept (openBrackets ws)).toBracket rfl h
  rw [← hbracket, openBrackets_bracket]

namespace Conversion

theorem consistent_empty : Consistent {} := ⟨rfl, nofun, fun _ => rfl⟩

theorem step_depth (h : Consistent s) (hs : s.step limit t = .ok s') :
    s'.depth = openBrackets s'.waiting ∧ s'.depth ≤ s.depth + openings [t] := by
  have hd := h.depth
  cases t with
  | operator o =>
    cases hs
    have hkept : openBrackets (release o s.waiting s.output).1 = s.depth :=
      (openBrackets_kept s.depth).release hd.symm o
    exact ⟨hkept.symm, Nat.le_refl _⟩
  | leftBracket =>
    obtain ⟨-, rfl⟩ := leftBracket_ok hs
    exact ⟨by rw [openBrackets_bracket, hd], Nat.le_refl _⟩
  | comma =>
    obtain ⟨f, ws, output, ht, rfl⟩ := comma_ok hs
    exact ⟨by rw [openBrackets_bracket, ← openBrackets_toBracket ht, hd], Nat.le_refl _⟩
  | rightBracket =>
    have hle : s.depth - 1 ≤ s.depth + openings [.rightBracket] := by omega
    obtain ⟨f, ws, output, ht, rfl⟩ | ⟨ws, output, ht, -, rfl⟩ := rightBracket_ok hs
    · have hcall : openBrackets (.function f :: ws) = openBrackets ws := rfl
      have hbelow := openBrackets_toBracket ht
      have hclosed : s.depth - 1 = openBrackets ws := by omega
      exact ⟨hclosed, hle⟩
    · have hbelow := openBrackets_toBracket ht
      have hclosed : s.depth - 1 = openBrackets ws := by omega
      exact ⟨hclosed, hle⟩
  | _ =>
    cases hs
    exact ⟨hd, Nat.le_refl _⟩

theorem Consistent.step (h : Consistent s) (hs : s.step limit t = .ok s') : Consistent s' := by
  have hp := step_previous hs
  refine ⟨(step_depth h hs).1, fun hc => ?_, fun hn => ?_⟩
  · simp only [afterComma, hp] at hc
    cases t with
    | comma =>
      obtain ⟨f, ws, output, -, rfl⟩ := comma_ok hs
      exact ⟨_, rfl⟩
    | _ => cases hc
  · rw [hp] at hn
    cases hn

theorem run_consistent (h : Consistent s) (hs : s.run limit ts = .ok s') :
    Consistent s' ∧ s'.depth ≤ s.depth + openings ts := by
  induction ts generalizing s with
  | nil =>
    cases hs
    exact ⟨h, Nat.le_refl _⟩
  | cons t ts ih =>
    obtain ⟨next, ht, hts⟩ := run_cons hs
    obtain ⟨hend, hle⟩ := ih (h.step ht) hts
    have hnext := (step_depth h ht).2
    have hcons := openings_cons t ts
    exact ⟨hend, by omega⟩

end Conversion

theorem atCall_inside (ws outer : List Waiting) :
    atCall (ws ++ .bracket :: outer) = atCall ws := by
  rcases ws with _ | ⟨o | f | _, ws⟩ <;> rfl

theorem toBracket_inside (h : toBracket ws output = some (ws', output')) (below : List Waiting) :
    toBracket (ws ++ below) output = some (ws' ++ below, output') := by
  induction ws generalizing output with
  | nil => cases h
  | cons w ws ih =>
    cases w with
    | operator o => exact ih h
    | function f => exact ih h
    | bracket =>
      cases h
      rfl

theorem release_inside (o : Operator) (ws outer : List Waiting) (output : List Token) :
    release o (ws ++ .bracket :: outer) output =
      ((release o ws output).1 ++ .bracket :: outer, (release o ws output).2) := by
  induction ws generalizing output with
  | nil => rfl
  | cons w ws ih =>
    cases w with
    | function f => rfl
    | bracket => rfl
    | operator p =>
      simp only [List.cons_append, release]
      split
      · exact ih (.operator p :: output)
      · rfl

theorem toBracket_of_finish (h : finish ws output = .ok b) (outer : List Waiting) :
    toBracket (ws ++ .bracket :: outer) output = some (outer, b.reverse) ∧
      openBrackets ws = 0 := by
  induction ws generalizing output with
  | nil =>
    cases h
    exact ⟨by simp [toBracket], rfl⟩
  | cons w ws ih =>
    cases w with
    | operator o => exact ih h
    | function f => exact ih h
    | bracket => cases h

namespace Conversion

theorem afterComma_inside (outer : List Waiting) (depth : Nat) (s : Conversion) :
    (s.inside outer depth).afterComma = s.afterComma := by
  obtain ⟨output, ws, depth, _ | t⟩ := s
  · rfl
  · rfl

theorem afterLeftBracket_inside (h : Consistent s) (ht : toBracket s.waiting s.output ≠ none) :
    (s.inside outer depth).afterLeftBracket = s.afterLeftBracket := by
  cases hp : s.previous with
  | none =>
    rw [h.start hp] at ht
    exact absurd rfl ht
  | some t => simp only [afterLeftBracket, inside, hp, Option.or]

theorem leftBracket_inside (hs : s.leftBracket limit = .ok s') (hl : s.depth + depth + 1 ≤ limit') :
    (s.inside outer depth).leftBracket limit' = .ok (s'.inside outer depth) := by
  obtain ⟨-, rfl⟩ := leftBracket_ok hs
  have hd : (s.inside outer depth).depth + 1 = s.depth + 1 + depth := Nat.add_right_comm _ _ _
  have hc : atCall (s.inside outer depth).waiting = atCall s.waiting := atCall_inside _ _
  simp only [leftBracket, hd, hc, if_neg (show ¬ limit' < s.depth + 1 + depth by omega)]
  rfl

theorem comma_inside (h : Consistent s) (hs : s.comma = .ok s') :
    (s.inside outer depth).comma = .ok (s'.inside outer depth) := by
  obtain ⟨hb, hp⟩ := comma_after hs
  obtain ⟨f, ws, output, ht, rfl⟩ := comma_ok hs
  have hb' : (s.inside outer depth).afterLeftBracket = false := by
    rw [afterLeftBracket_inside h (by rw [ht]; nofun), hb]
  have hp' : (s.inside outer depth).afterComma = false := by rw [afterComma_inside, hp]
  exact comma_call hb' hp' (toBracket_inside ht (.bracket :: outer))

theorem rightBracket_inside (h : Consistent s) (hs : s.rightBracket = .ok s') :
    (s.inside outer depth).rightBracket = .ok (s'.inside outer depth) := by
  have hp : (s.inside outer depth).afterComma = false := by
    rw [afterComma_inside, rightBracket_after hs]
  have hd (hn : openBrackets s.waiting ≠ 0) :
      (s.inside outer depth).depth - 1 = s.depth - 1 + depth := by
    have hdepth := h.depth
    simp only [inside]
    omega
  obtain ⟨f, ws, output, ht, rfl⟩ | ⟨ws, output, ht, hc, rfl⟩ := rightBracket_ok hs
  · have hbelow := openBrackets_toBracket ht
    rw [rightBracket_call hp (toBracket_inside ht (.bracket :: outer)), hd (by omega)]
    rfl
  · have hbelow := openBrackets_toBracket ht
    have hc' : atCall (ws ++ .bracket :: outer) = false := by rw [atCall_inside, hc]
    rw [rightBracket_plain hp (toBracket_inside ht (.bracket :: outer)) hc', hd (by omega)]
    rfl

theorem step_inside (h : Consistent s) (hs : s.step limit t = .ok s')
    (hl : s.depth + depth + openings [t] ≤ limit') :
    (s.inside outer depth).step limit' t = .ok (s'.inside outer depth) := by
  cases t with
  | leftBracket => exact leftBracket_inside hs hl
  | comma => exact comma_inside h hs
  | rightBracket => exact rightBracket_inside h hs
  | operator o =>
    cases hs
    simp only [step, operator, inside, release_inside]
    rfl
  | _ =>
    cases hs
    rfl

theorem run_inside (h : Consistent s) (hs : s.run limit ts = .ok s')
    (hl : s.depth + depth + openings ts ≤ limit') :
    (s.inside outer depth).run limit' ts = .ok (s'.inside outer depth) := by
  induction ts generalizing s with
  | nil =>
    cases hs
    rfl
  | cons t ts ih =>
    obtain ⟨next, ht, hts⟩ := run_cons hs
    have hcons := openings_cons t ts
    have hdepth := (step_depth h ht).2
    have hstep : (s.inside outer depth).step limit' t = .ok (next.inside outer depth) :=
      step_inside h ht (by omega)
    have hrest := ih (h.step ht) hts (by omega)
    simp only [run, hstep, hrest]

theorem group_call {f : Callable} (hw : s.waiting = .function f :: ws) :
    s.group b = ⟨.function f :: (b.reverse ++ .leftBracket :: s.output), ws, s.depth,
      some .rightBracket⟩ := by
  simp only [group, hw]

theorem group_plain (hc : atCall s.waiting = false) :
    s.group b = ⟨b.reverse ++ s.output, s.waiting, s.depth, some .rightBracket⟩ := by
  obtain ⟨output, ws, depth, previous⟩ := s
  rcases ws with _ | ⟨o | f | _, ws⟩
  · rfl
  · rfl
  · cases hc
  · rfl

theorem exists_function (hc : atCall ws = true) : ∃ f below, ws = .function f :: below := by
  match ws, hc with
  | .function f :: below, _ => exact ⟨f, below, rfl⟩

theorem exists_group (s : Conversion) :
    ∃ base before, ∀ b, s.group b = above (b.reverse ++ before) base := by
  cases hc : atCall s.waiting with
  | true =>
    obtain ⟨f, ws, hw⟩ := exists_function hc
    exact ⟨⟨[.function f], ws, s.depth, some .rightBracket⟩, .leftBracket :: s.output,
      fun b => group_call hw⟩
  | false =>
    exact ⟨⟨[], s.waiting, s.depth, some .rightBracket⟩, s.output, fun b => group_plain hc⟩

theorem rightBracket_group (hd : s'.depth = 0) (hp : s'.afterComma = false)
    (ht : toBracket (s'.waiting ++ .bracket :: s.waiting) s'.output = some (s.waiting, b.reverse)) :
    ((s'.inside s.waiting (s.depth + 1)).above
      (if atCall s.waiting then .leftBracket :: s.output else s.output)).rightBracket =
      .ok (s.group b) := by
  have hp' : (s'.inside s.waiting (s.depth + 1)).afterComma = false := by
    rw [afterComma_inside, hp]
  have hd' : (s'.inside s.waiting (s.depth + 1)).depth - 1 = s.depth := by
    simp only [inside]
    omega
  rw [rightBracket_above]
  cases hc : atCall s.waiting with
  | true =>
    obtain ⟨f, ws, hw⟩ := exists_function hc
    rw [rightBracket_call hp' (ht.trans (by rw [hw])), hd', group_call hw]
    rfl
  | false =>
    rw [rightBracket_plain hp' ht hc, hd', group_plain hc]
    rfl

/-- Brackets around what is accepted alone write it as it is. -/
theorem run_group {content : List Token} (h : reversePolish limit content = .ok b)
    (hl : s.depth + 1 + openings content ≤ limit') (rest : List Token) :
    s.run limit' (.leftBracket :: (content ++ .rightBracket :: rest)) =
      (s.group b).run limit' rest := by
  obtain ⟨last, hr, hf⟩ := reversePolish_run h
  obtain ⟨hlast, -⟩ := run_consistent consistent_empty hr
  obtain ⟨ht, hopen⟩ := toBracket_of_finish hf s.waiting
  have hp : last.afterComma = false := by
    rw [Bool.eq_false_iff]
    intro hc
    obtain ⟨ws, hw⟩ := hlast.comma hc
    rw [hw] at hf
    cases hf
  have hopened : s.leftBracket limit' =
      .ok ((({} : Conversion).inside s.waiting (s.depth + 1)).above
        (if atCall s.waiting then .leftBracket :: s.output else s.output)) := by
    simp only [leftBracket, if_neg (show ¬ limit' < s.depth + 1 by omega), inside, above,
      Nat.zero_add]
    rfl
  have hcontent : (({} : Conversion).inside s.waiting (s.depth + 1)).run limit' content =
      .ok (last.inside s.waiting (s.depth + 1)) :=
    run_inside consistent_empty hr (by simpa using hl)
  have hclosed := rightBracket_group (s := s) (hlast.depth.trans hopen) hp ht
  simp only [run, step, hopened, run_append, run_above, hcontent, Except.map, hclosed]

end Conversion

theorem openings_bracketed (before content after : List Token) :
    openings (bracketed before content after) =
      openings before + openings content + openings after + 1 := by
  have hleft : Token.leftBracket.isMarker = true := rfl
  have hright : Token.rightBracket.isMarker = false := rfl
  simp only [openings, bracketed, List.countP_append, List.countP_cons, hleft, hright, if_true,
    Bool.false_eq_true, if_false]
  omega

/-- What is written around brackets depends on the tokens around them only. -/
theorem reversePolish_frame (limit : Nat) (before after : List Token) :
    ∃ frame : Except Error (List Token × List Token), ∀ l content b,
      reversePolish l content = .ok b → openings (bracketed before content after) ≤ limit →
        reversePolish limit (bracketed before content after) =
          frame.map fun xy => xy.1 ++ b ++ xy.2 := by
  cases hs : Conversion.run limit {} before with
  | error e =>
    refine ⟨.error e, fun l content b _ _ => ?_⟩
    simp only [reversePolish, bracketed, Conversion.run_append, hs]
    rfl
  | ok s =>
    obtain ⟨base, front, hgroup⟩ := s.exists_group
    refine ⟨(base.complete limit after).map fun y => (front.reverse, y),
      fun l content b hb hl => ?_⟩
    rw [openings_bracketed] at hl
    have hdepth : s.depth ≤ ({} : Conversion).depth + openings before :=
      (Conversion.run_consistent Conversion.consistent_empty hs).2
    have hempty : ({} : Conversion).depth = 0 := rfl
    have hwhole : reversePolish limit (bracketed before content after) =
        (s.group b).complete limit after := by
      simp only [reversePolish, bracketed, Conversion.run_append, hs,
        Conversion.run_group hb (by omega : s.depth + 1 + openings content ≤ limit)]
      rfl
    rw [hwhole, hgroup, Conversion.complete_above]
    cases base.complete limit after with
    | error e => rfl
    | ok y => simp [Except.map]

theorem reversePolish_group {l limit : Nat} {content b : List Token}
    (h : reversePolish l content = .ok b) (hl : openings content < limit) :
    reversePolish limit (bracketed [] content []) = .ok b := by
  have hroom : ({} : Conversion).depth + 1 + openings content ≤ limit := by
    simp only [Nat.zero_add]
    omega
  have hrun : Conversion.run limit {} (bracketed [] content []) = _ :=
    Conversion.run_group h hroom []
  simp only [reversePolish, hrun, Conversion.run, Conversion.group, finish, List.append_nil,
    List.reverse_reverse]

/-- Brackets isolate their content. What stands around two contents that are accepted alone is
written alike, and no operator or function of it between what they are written as. -/
theorem reversePolish_isolates {l l' limit : Nat} {before content content' after b b' : List Token}
    (h : reversePolish l content = .ok b) (h' : reversePolish l' content' = .ok b')
    (hl : openings (bracketed before content after) ≤ limit)
    (hl' : openings (bracketed before content' after) ≤ limit) :
    ((∃ e, reversePolish limit (bracketed before content after) = .error e ∧
        reversePolish limit (bracketed before content' after) = .error e) ∨
      ∃ x y, reversePolish limit (bracketed before content after) = .ok (x ++ b ++ y) ∧
        reversePolish limit (bracketed before content' after) = .ok (x ++ b' ++ y) ∧
        ((x ++ y).filter (·.isApplied)).Perm ((before ++ after).filter (·.isApplied))) ∧
    reversePolish limit (bracketed [] content []) = .ok b := by
  have hroom := hl
  rw [openings_bracketed] at hroom
  constructor
  · obtain ⟨frame, hframe⟩ := reversePolish_frame limit before after
    have hnone : openings (bracketed before [] after) ≤ limit := by
      rw [openings_bracketed, show openings [] = 0 from rfl]
      omega
    have hempty := hframe 0 [] [] rfl hnone
    rw [hframe l content b h hl, hframe l' content' b' h' hl']
    cases frame with
    | error e => exact .inl ⟨e, rfl, rfl⟩
    | ok xy =>
      obtain ⟨x, y⟩ := xy
      refine .inr ⟨x, y, rfl, rfl, ?_⟩
      -- Brackets around nothing show what is written of the other tokens.
      obtain ⟨places, hplaces⟩ := reversePolish_placement hempty
      have hleft : Token.leftBracket.isApplied = false := rfl
      have hright : Token.rightBracket.isApplied = false := rfl
      simpa [bracketed, List.filter_cons, hleft, hright] using hplaces.applied
  · exact reversePolish_group h (by omega)

end

theorem reversePolish_isolates_factor : ∃ x y,
    reversePolish 1 (bracketed [.number 2, .operator Builtin.times]
      [.number 1, .operator Builtin.plus, .number 3] [.operator Builtin.power, .number 5]) =
        .ok (x ++ [.number 1, .number 3, .operator Builtin.plus] ++ y) ∧
    reversePolish 1 (bracketed [.number 2, .operator Builtin.times] [.var "x"]
      [.operator Builtin.power, .number 5]) = .ok (x ++ [.var "x"] ++ y) := by
  have hsum : reversePolish 0 [.number 1, .operator Builtin.plus, .number 3] =
      .ok [.number 1, .number 3, .operator Builtin.plus] := rfl
  have hvar : reversePolish 0 [.var "x"] = .ok [.var "x"] := rfl
  let before : List Token := [.number 2, .operator Builtin.times]
  let after : List Token := [.operator Builtin.power, .number 5]
  have hl : openings (bracketed before
      [.number 1, .operator Builtin.plus, .number 3] after) ≤ 1 := by decide
  have hl' : openings (bracketed before [.var "x"] after) ≤ 1 := by decide
  obtain ⟨⟨e, he, -⟩ | ⟨x, y, hx, hy, -⟩, -⟩ := reversePolish_isolates hsum hvar hl hl'
  · cases he
  · exact ⟨x, y, hx, hy⟩

end Reckoner
