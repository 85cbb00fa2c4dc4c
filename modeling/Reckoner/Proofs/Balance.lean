import Reckoner.Token

set_option autoImplicit false

namespace Reckoner

def Token.turn : Token → Int
  | leftBracket => 1
  | rightBracket => -1
  | _ => 0

def level : List Token → Int
  | [] => 0
  | t :: ts => t.turn + level ts

structure Balanced (ts : List Token) : Prop where
  total : level ts = 0
  before : ∀ us, us <+: ts → 0 ≤ level us

/-- The innermost bracket that is still open after these tokens is one of a call. -/
def InCall (us : List Token) : Prop :=
  ∃ x f y, us = x ++ .function f :: .leftBracket :: y ∧ Balanced y

/-- The brackets that are open after these tokens, the innermost first, each with whether it
belongs to a call. -/
inductive Opened : List Token → List Bool → Prop where
  | none {us : List Token} : Balanced us → Opened us []
  | group {x y : List Token} {bs : List Bool} : Opened x bs →
      (∀ f, x.getLast? ≠ some (.function f)) → Balanced y →
      Opened (x ++ .leftBracket :: y) (false :: bs)
  | call (f : Callable) {x y : List Token} {bs : List Bool} : Opened x bs →
      x.getLast? = some (.function f) → Balanced y →
      Opened (x ++ .leftBracket :: y) (true :: bs)

section

variable {ts us x y : List Token} {t : Token} {bs : List Bool} {b : Bool}

theorem level_append (us vs : List Token) : level (us ++ vs) = level us + level vs := by
  induction us with
  | nil => simp [level]
  | cons t us ih => simp only [List.cons_append, level, ih, Int.add_assoc]

theorem level_singleton (t : Token) : level [t] = t.turn := Int.add_zero _

theorem Balanced.nil : Balanced [] := by
  refine ⟨rfl, fun us hus => ?_⟩
  simp [List.prefix_nil.1 hus, level]

theorem Balanced.level_open (h : Balanced y) (x : List Token) :
    level (x ++ .leftBracket :: y) = level x + 1 := by
  simp only [level_append, level, Token.turn, h.total, Int.add_zero]

theorem Balanced.not_open {z : List Token} (h : Balanced (z ++ .leftBracket :: y))
    (hy : Balanced y) : False := by
  have htotal := h.total
  rw [hy.level_open] at htotal
  have hbefore := h.before z (List.prefix_append _ _)
  omega

theorem innermost_unique {x' y' : List Token} (hy : Balanced y) (hy' : Balanced y')
    (h : x ++ .leftBracket :: y = x' ++ .leftBracket :: y') : x = x' := by
  rcases List.append_eq_append_iff.1 h with ⟨z, hx, hz⟩ | ⟨z, hx, hz⟩
  · cases z with
    | nil => simp [hx]
    | cons c z =>
      cases hz
      exact (hy.not_open hy').elim
  · cases z with
    | nil => simp [hx]
    | cons c z =>
      cases hz
      exact (hy'.not_open hy).elim

theorem Balanced.snoc (h : ∀ p, p <+: us → 0 ≤ level p) (ht : level (us ++ [t]) = 0) :
    Balanced (us ++ [t]) := by
  refine ⟨ht, fun p hp => ?_⟩
  rcases List.prefix_concat_iff.1 hp with rfl | hp
  · omega
  · exact h p hp

theorem Balanced.other (h : Balanced ts) (ht : t.turn = 0) : Balanced (ts ++ [t]) := by
  refine .snoc h.before ?_
  rw [level_append, level_singleton, h.total, ht]
  rfl

theorem Balanced.close (hx : Balanced x) (hy : Balanced y) :
    Balanced (x ++ .leftBracket :: y ++ [.rightBracket]) := by
  refine .snoc (fun p hp => ?_) ?_
  · rcases List.prefix_or_prefix_of_prefix hp (List.prefix_append x _) with hp | ⟨z, rfl⟩
    · exact hx.before p hp
    · rcases List.prefix_cons_iff.1 ((List.prefix_append_right_inj x).1 hp) with rfl | ⟨z, rfl, hz⟩
      · rw [List.append_nil]
        exact hx.before x (List.prefix_refl x)
      · have hbefore := hy.before z hz
        simp only [level_append, level, Token.turn, hx.total]
        omega
  · rw [level_append, hy.level_open, hx.total]
    rfl

namespace Opened

theorem level_eq (h : Opened us bs) : level us = bs.length := by
  induction h with
  | none h => exact h.total
  | group _ _ hy ih => simp [hy.level_open, ih]
  | call f _ _ hy ih => simp [hy.level_open, ih]

theorem other (h : Opened us bs) (ht : t.turn = 0) : Opened (us ++ [t]) bs := by
  cases h with
  | none h => exact .none (h.other ht)
  | group hx hf hy => simpa using Opened.group hx hf (hy.other ht)
  | call f hx hf hy => simpa using Opened.call f hx hf (hy.other ht)

theorem enclose (hx : Opened x bs) (hy : Balanced y) :
    Opened (x ++ .leftBracket :: y ++ [.rightBracket]) bs := by
  cases hx with
  | none h => exact .none (h.close hy)
  | group hx hf hz => simpa using Opened.group hx hf (hz.close hy)
  | call f hx hf hz => simpa using Opened.call f hx hf (hz.close hy)

theorem close (h : Opened us (b :: bs)) : Opened (us ++ [.rightBracket]) bs := by
  cases h with
  | group hx _ hy => exact hx.enclose hy
  | call f hx _ hy => exact hx.enclose hy

theorem inCall (h : Opened us bs) : InCall us ↔ bs.head? = some true := by
  have hinner {x f y} (h : us = x ++ .function f :: .leftBracket :: y) :
      us = (x ++ [.function f]) ++ .leftBracket :: y := by simp [h]
  cases h with
  | none h =>
    refine ⟨?_, nofun⟩
    rintro ⟨x, f, y, hus, hy⟩
    rw [hinner hus] at h
    exact (h.not_open hy).elim
  | group hx hf hy =>
    refine ⟨?_, nofun⟩
    rintro ⟨x', f, y', hus, hy'⟩
    have hx' := innermost_unique hy hy' (hinner hus)
    exact absurd (by simp [hx']) (hf f)
  | call f hx hf hy =>
    refine ⟨fun _ => rfl, fun _ => ?_⟩
    obtain ⟨x', rfl⟩ := List.getLast?_eq_some_iff.1 hf
    exact ⟨x', f, _, by simp, hy⟩

end Opened

end

end Reckoner
