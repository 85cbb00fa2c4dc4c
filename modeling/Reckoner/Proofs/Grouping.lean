import Reckoner.Proofs.Grammar

/-! How binary operators group without brackets. The stronger of two operators takes the operand
between them; those of one strength all group to the same side. Each sentence of the grammar is the
infix order of a tree that respects this: the trees of its signed operands are put together from
left to right.
-/

set_option autoImplicit false

namespace Reckoner

structure Grouping (β : Type) where
  strength : β → Nat
  /-- Operators of this strength group to the left. -/
  groupsLeft : Nat → Bool

namespace Grouping

variable {β : Type} (G : Grouping β) {o p q : β}

/-- The operand of `o` on this side can be an application of `p`. -/
def Allows (left : Bool) (o p : β) : Prop :=
  G.strength o < G.strength p ∨
    G.strength o = G.strength p ∧ G.groupsLeft (G.strength o) = left

abbrev AllowsLeft (o p : β) : Prop := G.Allows true o p

abbrev AllowsRight (o p : β) : Prop := G.Allows false o p

instance (left : Bool) (o p : β) : Decidable (G.Allows left o p) := by
  unfold Allows
  infer_instance

/-- Of two operators in a row, exactly one can be an operand of the other. -/
theorem allowsRight_iff : G.AllowsRight p o ↔ ¬ G.AllowsLeft o p := by
  simp only [Allows]
  by_cases h : G.strength p = G.strength o
  · cases hg : G.groupsLeft (G.strength o) <;> simp [h, hg]
  · have h' : ¬ G.strength o = G.strength p := fun e => h e.symm
    simp only [h, h', false_and, or_false]
    omega

theorem Allows.trans {left side : Bool} (h : G.Allows left o p) (h' : G.Allows side p q) :
    G.Allows left o q := by
  rcases h with h | ⟨h, hg⟩
  · exact .inl (by rcases h' with h' | ⟨h', _⟩ <;> omega)
  · rcases h' with h' | ⟨h', _⟩
    · exact .inl (by omega)
    · exact .inr ⟨h.trans h', hg⟩

end Grouping

namespace Tree

variable {α φ β υ σ : Type}

def head? : Tree α φ β υ → Option β
  | .binary o _ _ => some o
  | _ => none

/-- Unary operators bind tighter than all binary ones. -/
inductive Respects (G : Grouping β) : Tree α φ β υ → Prop where
  | leaf (a : α) : Respects G (.leaf a)
  | group {e : Tree α φ β υ} : Respects G e → Respects G (.group e)
  | call {f : φ} {args : List (Tree α φ β υ)} : (∀ t ∈ args, Respects G t) →
      Respects G (.call f args)
  | binary {o : β} {l r : Tree α φ β υ} : Respects G l → Respects G r →
      (∀ p, l.head? = some p → G.AllowsLeft o p) →
      (∀ p, r.head? = some p → G.AllowsRight o p) → Respects G (.binary o l r)
  | unary {u : υ} {e : Tree α φ β υ} : Respects G e → e.head? = none → Respects G (.unary u e)

variable (G : Grouping β) (S : Script α φ β υ σ) {o : β} {t u : Tree α φ β υ}

/-- The tree continued by an operator and its right operand. -/
def extend (o : β) : Tree α φ β υ → Tree α φ β υ → Tree α φ β υ
  | .binary p l r, u =>
    if G.AllowsLeft o p then .binary o (.binary p l r) u else .binary p l (r.extend o u)
  | t, u => .binary o t u

theorem extend_of_allowed (h : ∀ p, t.head? = some p → G.AllowsLeft o p) :
    t.extend G o u = .binary o t u := by
  cases t with
  | binary p l r => exact if_pos (h p rfl)
  | leaf a => rfl
  | group e => rfl
  | call f args => rfl
  | unary v e => rfl

theorem inOrder_extend (o : β) (t u : Tree α φ β υ) :
    (t.extend G o u).inOrder S = t.inOrder S ++ S.binary o :: u.inOrder S := by
  induction t with
  | binary p l r _ ih =>
    simp only [extend]
    split
    · rfl
    · simp only [inOrder, ih, List.append_assoc, List.cons_append]
  | leaf a => rfl
  | group e _ => rfl
  | call f args _ => rfl
  | unary v e _ => rfl

theorem head?_extend {q : β} (h : (t.extend G o u).head? = some q) :
    q = o ∨ t.head? = some q := by
  cases t with
  | binary p l r =>
    simp only [extend] at h
    split at h
    · exact .inl (Option.some.inj h).symm
    · exact .inr h
  | leaf a => exact .inl (Option.some.inj h).symm
  | group e => exact .inl (Option.some.inj h).symm
  | call f args => exact .inl (Option.some.inj h).symm
  | unary v e => exact .inl (Option.some.inj h).symm

theorem Respects.extend (ht : t.Respects G) (hu : u.Respects G) (hn : u.head? = none) (o : β) :
    (t.extend G o u).Respects G := by
  have single {t : Tree α φ β υ} (ht : t.Respects G)
      (h : ∀ p, t.head? = some p → G.AllowsLeft o p) : (t.extend G o u).Respects G := by
    rw [extend_of_allowed G h]
    exact .binary ht hu h (by simp [hn])
  induction ht with
  | leaf a => exact single (.leaf a) (by simp [head?])
  | group he _ => exact single (.group he) (by simp [head?])
  | call hs _ => exact single (.call hs) (by simp [head?])
  | unary he hn _ => exact single (.unary he hn) (by simp [head?])
  | @binary p l r hl hr hpl hpr _ ih =>
    by_cases hp : G.AllowsLeft o p
    · refine single (.binary hl hr hpl hpr) fun q hq => ?_
      rwa [← Option.some.inj hq]
    · simp only [Tree.extend, if_neg hp]
      refine .binary hl ih hpl fun q hq => ?_
      rcases head?_extend G hq with rfl | hq
      · exact (G.allowsRight_iff).2 hp
      · exact hpr q hq

theorem furtherArguments_append (ts us : List (Tree α φ β υ)) :
    furtherArguments S (ts ++ us) = furtherArguments S ts ++ furtherArguments S us := by
  induction ts with
  | nil => rfl
  | cons t ts ih => simp only [List.cons_append, furtherArguments, ih, List.append_assoc]

end Tree

variable {α φ β υ σ : Type} (G : Grouping β) (S : Script α φ β υ σ)

def Category.Reads : Category → List σ → Prop
  | .sentence, ts => ∃ t : Tree α φ β υ, t.Respects G ∧ t.inOrder S = ts
  | .signed, ts | .primary, ts =>
    ∃ t : Tree α φ β υ, (t.Respects G ∧ t.head? = none) ∧ t.inOrder S = ts
  | .arguments, ts =>
    ∃ (t : Tree α φ β υ) (us : List (Tree α φ β υ)),
      (∀ u ∈ t :: us, u.Respects G) ∧ Tree.arguments S (t :: us) = ts

theorem Derives.reads {c : Category} {ts : List σ} (h : Derives S c ts) : c.Reads G S ts := by
  induction h with
  | one _ ih =>
    obtain ⟨t, ⟨ht, _⟩, rfl⟩ := ih
    exact ⟨t, ht, rfl⟩
  | more o _ _ iht ihu =>
    obtain ⟨t, ht, rfl⟩ := iht
    obtain ⟨u, ⟨hu, hn⟩, rfl⟩ := ihu
    exact ⟨t.extend G o u, ht.extend G hu hn o, t.inOrder_extend G S o u⟩
  | plain _ ih => exact ih
  | unary u _ ih =>
    obtain ⟨t, ⟨ht, hn⟩, rfl⟩ := ih
    exact ⟨.unary u t, ⟨.unary ht hn, rfl⟩, rfl⟩
  | leaf a => exact ⟨.leaf a, ⟨.leaf a, rfl⟩, rfl⟩
  | group _ ih =>
    obtain ⟨t, ht, rfl⟩ := ih
    exact ⟨.group t, ⟨.group ht, rfl⟩, rfl⟩
  | empty f => exact ⟨.call f [], ⟨.call (List.forall_mem_nil _), rfl⟩, rfl⟩
  | call f _ ih =>
    obtain ⟨t, us, hus, rfl⟩ := ih
    exact ⟨.call f (t :: us), ⟨.call hus, rfl⟩, rfl⟩
  | argument _ ih =>
    obtain ⟨t, ht, rfl⟩ := ih
    refine ⟨t, [], fun u hu => ?_, ?_⟩
    · rwa [List.mem_singleton.1 hu]
    · simp only [Tree.arguments, Tree.furtherArguments, List.append_nil]
  | further _ _ iht ihu =>
    obtain ⟨t, us, hus, rfl⟩ := iht
    obtain ⟨u, hu, rfl⟩ := ihu
    refine ⟨t, us ++ [u], fun x hx => ?_, ?_⟩
    · rw [← List.cons_append, List.mem_append, List.mem_singleton] at hx
      rcases hx with hx | rfl
      · exact hus x hx
      · exact hu
    · simp only [Tree.arguments, Tree.furtherArguments_append, Tree.furtherArguments,
        List.append_nil, List.append_assoc]

end Reckoner
