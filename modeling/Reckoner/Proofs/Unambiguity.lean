import Reckoner.Proofs.Grouping

set_option autoImplicit false

namespace Reckoner

inductive Start (α φ υ : Type) where
  | leaf : α → Start α φ υ
  | function : φ → Start α φ υ
  | unary : υ → Start α φ υ
  | opening : Start α φ υ

inductive Sequel (β : Type) where
  | binary : β → Sequel β
  | closing : Sequel β
  | comma : Sequel β

variable {α φ β υ σ : Type}

namespace Script

def start (S : Script α φ β υ σ) : Start α φ υ → σ
  | .leaf a => S.leaf a
  | .function f => S.function f
  | .unary u => S.unary u
  | .opening => S.opening

def sequel (S : Script α φ β υ σ) : Sequel β → σ
  | .binary o => S.binary o
  | .closing => S.closing
  | .comma => S.comma

/-- A unary operator can be written like a binary one. -/
structure Legible (S : Script α φ β υ σ) : Prop where
  start_injective : Function.Injective S.start
  sequel_injective : Function.Injective S.sequel
  start_ne_closing : ∀ x, S.start x ≠ S.closing

end Script

namespace Tree

variable (G : Grouping β) (S : Script α φ β υ σ)

def first : Tree α φ β υ → Tree α φ β υ
  | .binary _ l _ => l.first
  | t => t

/-- The operators outside of brackets, each with the operand after it. -/
def rest : Tree α φ β υ → List (β × Tree α φ β υ)
  | .binary o l r => l.rest ++ (o, r.first) :: r.rest
  | _ => []

def operands (t : Tree α φ β υ) : List (Tree α φ β υ) := t.first :: t.rest.map (·.2)

def chain : List (β × Tree α φ β υ) → List σ
  | [] => []
  | (o, u) :: xs => S.binary o :: (u.inOrder S ++ chain xs)

theorem chain_append (xs ys : List (β × Tree α φ β υ)) :
    chain S (xs ++ ys) = chain S xs ++ chain S ys := by
  induction xs with
  | nil => rfl
  | cons x xs ih => simp only [List.cons_append, chain, ih, List.append_assoc]

theorem inOrder_eq_chain (t : Tree α φ β υ) :
    t.inOrder S = t.first.inOrder S ++ chain S t.rest := by
  induction t with
  | binary o l r hl hr =>
    simp only [inOrder, first, rest, chain_append, chain, ← hr]
    rw [hl, List.append_assoc]
  | leaf a => rfl
  | group e _ => exact (List.append_nil _).symm
  | call f args _ => exact (List.append_nil _).symm
  | unary u e _ => exact (List.append_nil _).symm

theorem operands_binary (o : β) (l r : Tree α φ β υ) :
    (binary o l r).operands = l.operands ++ r.operands := by
  simp [operands, first, rest]

theorem operands_of_head {t : Tree α φ β υ} (h : t.head? = none) : t.operands = [t] := by
  cases t with
  | binary o l r => cases h
  | leaf a => rfl
  | group e => rfl
  | call f args => rfl
  | unary u e => rfl

theorem Respects.operands {t : Tree α φ β υ} (ht : t.Respects G) :
    ∀ x ∈ t.operands, x.Respects G ∧ x.head? = none := by
  have single {t : Tree α φ β υ} (ht : t.Respects G) (hn : t.head? = none) :
      ∀ x ∈ t.operands, x.Respects G ∧ x.head? = none := by
    intro x hx
    rw [operands_of_head hn, List.mem_singleton] at hx
    rw [hx]
    exact ⟨ht, hn⟩
  induction ht with
  | leaf a => exact single (.leaf a) rfl
  | group he _ => exact single (.group he) rfl
  | call hs _ => exact single (.call hs) rfl
  | unary he hn _ => exact single (.unary he hn) rfl
  | binary _ _ _ _ hl hr =>
    intro x hx
    rw [operands_binary, List.mem_append] at hx
    exact hx.elim (hl x) (hr x)

/-- What may come on the right of an operator can have only such operators outside of brackets. -/
theorem Respects.allowsRight_rest {t : Tree α φ β υ} (ht : t.Respects G) {o : β}
    (h : ∀ p, t.head? = some p → G.AllowsRight o p) : ∀ x ∈ t.rest, G.AllowsRight o x.1 := by
  induction ht with
  | @binary p l r _ _ hpl hpr hl hr =>
    have hp : G.AllowsRight o p := h p rfl
    intro x hx
    rw [rest, List.mem_append, List.mem_cons] at hx
    rcases hx with hx | rfl | hx
    · exact hl (fun q hq => hp.trans G (hpl q hq)) x hx
    · exact hp
    · exact hr (fun q hq => hp.trans G (hpr q hq)) x hx
  | leaf a => exact List.forall_mem_nil _
  | group _ _ => exact List.forall_mem_nil _
  | call _ _ => exact List.forall_mem_nil _
  | unary _ _ _ => exact List.forall_mem_nil _

def assemble (t : Tree α φ β υ) (xs : List (β × Tree α φ β υ)) : Tree α φ β υ :=
  xs.foldl (fun t x => t.extend G x.1 x.2) t

theorem assemble_binary {o : β} {xs : List (β × Tree α φ β υ)}
    (h : ∀ x ∈ xs, G.AllowsRight o x.1) (l t : Tree α φ β υ) :
    assemble G (.binary o l t) xs = .binary o l (assemble G t xs) := by
  induction xs generalizing t with
  | nil => rfl
  | cons x xs ih =>
    have hx : ¬ G.AllowsLeft x.1 o := G.allowsRight_iff.1 (h x List.mem_cons_self)
    have hxs := ih fun y hy => h y (List.mem_cons_of_mem x hy)
    simp only [assemble, List.foldl_cons, extend, if_neg hx] at hxs ⊢
    exact hxs _

/-- The tree is the only one that its chain of operands allows. -/
theorem Respects.assemble_rest {t : Tree α φ β υ} (ht : t.Respects G) :
    assemble G t.first t.rest = t := by
  induction ht with
  | @binary o l r _ hr hol hor ihl ihr =>
    have hjoin : assemble G l.first l.rest = l := ihl
    simp only [assemble] at hjoin
    simp only [assemble, first, rest, List.foldl_append, List.foldl_cons, hjoin]
    rw [extend_of_allowed G hol]
    exact (assemble_binary G (hr.allowsRight_rest G hor) l r.first).trans
      (congrArg (Tree.binary o l) ihr)
  | leaf a => rfl
  | group _ _ => rfl
  | call _ _ => rfl
  | unary _ _ _ => rfl

def Ends (xs : List σ) : Prop := ∀ o ys, xs ≠ S.binary o :: ys

/-- An operand that can be told apart from what follows it. -/
def Delimited (t : Tree α φ β υ) : Prop :=
  ∀ (u : Tree α φ β υ) (xs ys : List σ), u.Respects G → u.head? = none →
    t.inOrder S ++ xs = u.inOrder S ++ ys → t = u ∧ xs = ys

variable {S}

def start : Tree α φ β υ → Start α φ υ
  | .leaf a => .leaf a
  | .group _ => .opening
  | .call f _ => .function f
  | .binary _ l _ => l.start
  | .unary u _ => .unary u

theorem inOrder_start (S : Script α φ β υ σ) (t : Tree α φ β υ) :
    ∃ ts, t.inOrder S = S.start t.start :: ts := by
  induction t with
  | leaf a => exact ⟨_, rfl⟩
  | group e _ => exact ⟨_, rfl⟩
  | call f args _ => exact ⟨_, rfl⟩
  | unary u e _ => exact ⟨_, rfl⟩
  | binary o l r hl _ =>
    obtain ⟨ts, h⟩ := hl
    exact ⟨ts ++ S.binary o :: r.inOrder S, by rw [inOrder, h]; rfl⟩

theorem start_of_append (hS : S.Legible) {t u : Tree α φ β υ} {xs ys : List σ}
    (h : t.inOrder S ++ xs = u.inOrder S ++ ys) : t.start = u.start := by
  obtain ⟨ts, ht⟩ := t.inOrder_start S
  obtain ⟨us, hu⟩ := u.inOrder_start S
  rw [ht, hu] at h
  exact hS.start_injective (List.cons.inj h).1

theorem ends_sequel (hS : S.Legible) {x : Sequel β} (hx : ∀ o, x ≠ .binary o) (xs : List σ) :
    Ends S (S.sequel x :: xs) :=
  fun o _ h => hx o (hS.sequel_injective (List.cons.inj h).1)

theorem chain_unique (hS : S.Legible) {ts us : List (β × Tree α φ β υ)}
    (ht : ∀ x ∈ ts, Delimited G S x.2)
    (hu : ∀ x ∈ us, x.2.Respects G ∧ x.2.head? = none) {xs ys : List σ} (hx : Ends S xs)
    (hy : Ends S ys) (h : chain S ts ++ xs = chain S us ++ ys) : ts = us ∧ xs = ys := by
  induction ts generalizing us with
  | nil =>
    cases us with
    | nil => exact ⟨rfl, h⟩
    | cons u us => exact absurd h (hx _ _)
  | cons t ts ih =>
    cases us with
    | nil => exact absurd h.symm (hy _ _)
    | cons u us =>
      obtain ⟨o, t⟩ := t
      obtain ⟨p, u⟩ := u
      simp only [chain, List.cons_append, List.append_assoc, List.cons.injEq] at h
      have hop : o = p := Sequel.binary.inj (hS.sequel_injective h.1)
      obtain ⟨hur, hun⟩ := hu (p, u) List.mem_cons_self
      obtain ⟨htu, hrest⟩ := ht (o, t) List.mem_cons_self u _ _ hur hun h.2
      obtain ⟨htus, hxy⟩ := ih (fun x hm => ht x (List.mem_cons_of_mem _ hm))
        (fun x hm => hu x (List.mem_cons_of_mem _ hm)) hrest
      exact ⟨by rw [hop, show t = u from htu, htus], hxy⟩

/-- If its operands can be told apart, so can the tree. -/
theorem unique_of_operands (hS : S.Legible) {t u : Tree α φ β υ} (ht : t.Respects G)
    (hd : ∀ x ∈ t.operands, Delimited G S x) (hu : u.Respects G) {xs ys : List σ}
    (hx : Ends S xs) (hy : Ends S ys) (h : t.inOrder S ++ xs = u.inOrder S ++ ys) :
    t = u ∧ xs = ys := by
  rw [t.inOrder_eq_chain, u.inOrder_eq_chain, List.append_assoc, List.append_assoc] at h
  have huo := hu.operands G
  obtain ⟨hur, hun⟩ := huo _ List.mem_cons_self
  obtain ⟨hfirst, hchain⟩ := hd _ List.mem_cons_self _ _ _ hur hun h
  obtain ⟨hrest, hxy⟩ := chain_unique G hS
    (fun x hm => hd _ (List.mem_cons_of_mem _ (List.mem_map_of_mem hm)))
    (fun x hm => huo _ (List.mem_cons_of_mem _ (List.mem_map_of_mem hm))) hx hy hchain
  refine ⟨?_, hxy⟩
  rw [← ht.assemble_rest G, ← hu.assemble_rest G, hfirst, hrest]

theorem ends_furtherArguments (hS : S.Legible) (ts : List (Tree α φ β υ)) (xs : List σ) :
    Ends S (furtherArguments S ts ++ S.closing :: xs) := by
  cases ts with
  | nil => exact ends_sequel (x := .closing) hS (by simp) xs
  | cons t ts => exact ends_sequel (x := .comma) hS (by simp) _

theorem furtherArguments_unique (hS : S.Legible) {ts us : List (Tree α φ β υ)}
    (ht : ∀ t ∈ ts, t.Respects G ∧ ∀ x ∈ t.operands, Delimited G S x)
    (hu : ∀ u ∈ us, u.Respects G) {xs ys : List σ}
    (h : furtherArguments S ts ++ S.closing :: xs = furtherArguments S us ++ S.closing :: ys) :
    ts = us ∧ xs = ys := by
  have hne : S.comma ≠ S.closing := fun e => by
    have hs := hS.sequel_injective (show S.sequel .comma = S.sequel .closing from e)
    cases hs
  induction ts generalizing us with
  | nil =>
    cases us with
    | nil => exact ⟨rfl, (List.cons.inj h).2⟩
    | cons u us => exact absurd (List.cons.inj h).1.symm hne
  | cons t ts ih =>
    cases us with
    | nil => exact absurd (List.cons.inj h).1 hne
    | cons u us =>
      simp only [furtherArguments, List.cons_append, List.append_assoc, List.cons.injEq,
        true_and] at h
      obtain ⟨htr, htd⟩ := ht t List.mem_cons_self
      obtain ⟨htu, hrest⟩ := unique_of_operands G hS htr htd (hu u List.mem_cons_self)
        (ends_furtherArguments hS ts xs) (ends_furtherArguments hS us ys) h
      obtain ⟨htus, hxy⟩ := ih (fun x hm => ht x (List.mem_cons_of_mem t hm))
        (fun x hm => hu x (List.mem_cons_of_mem u hm)) hrest
      exact ⟨by rw [htu, htus], hxy⟩

theorem arguments_unique (hS : S.Legible) {ts us : List (Tree α φ β υ)}
    (ht : ∀ t ∈ ts, t.Respects G ∧ ∀ x ∈ t.operands, Delimited G S x)
    (hu : ∀ u ∈ us, u.Respects G) {xs ys : List σ}
    (h : arguments S ts ++ S.closing :: xs = arguments S us ++ S.closing :: ys) :
    ts = us ∧ xs = ys := by
  -- An operand does not begin with the bracket that would close an empty list.
  have hne (t : Tree α φ β υ) (zs ws : List σ) : S.closing :: zs ≠ t.inOrder S ++ ws := by
    obtain ⟨ts, hts⟩ := t.inOrder_start S
    rw [hts]
    exact fun e => hS.start_ne_closing _ (List.cons.inj e).1.symm
  cases ts with
  | nil =>
    cases us with
    | nil => exact ⟨rfl, (List.cons.inj h).2⟩
    | cons u us =>
      rw [arguments, List.nil_append, arguments, List.append_assoc] at h
      exact absurd h (hne u xs _)
  | cons t ts =>
    cases us with
    | nil =>
      rw [arguments, arguments, List.nil_append, List.append_assoc] at h
      exact absurd h.symm (hne t ys _)
    | cons u us =>
      rw [arguments, arguments, List.append_assoc, List.append_assoc] at h
      obtain ⟨htr, htd⟩ := ht t List.mem_cons_self
      obtain ⟨htu, hrest⟩ := unique_of_operands G hS htr htd (hu u List.mem_cons_self)
        (ends_furtherArguments hS ts xs) (ends_furtherArguments hS us ys) h
      obtain ⟨htus, hxy⟩ := furtherArguments_unique G hS
        (fun x hm => ht x (List.mem_cons_of_mem t hm))
        (fun x hm => hu x (List.mem_cons_of_mem u hm)) hrest
      exact ⟨by rw [htu, htus], hxy⟩

theorem delimited_leaf (hS : S.Legible) (a : α) : Delimited G S (.leaf a) := by
  intro u xs ys _ hun h
  have hs := start_of_append hS h
  cases u with
  | leaf b =>
    cases hs
    exact ⟨rfl, (List.cons.inj h).2⟩
  | group e => cases hs
  | call f args => cases hs
  | unary v e => cases hs
  | binary o l r => cases hun

theorem delimited_group (hS : S.Legible) {e : Tree α φ β υ} (he : e.Respects G)
    (hd : ∀ x ∈ e.operands, Delimited G S x) : Delimited G S (.group e) := by
  intro u xs ys hu hun h
  have hs := start_of_append hS h
  cases hu with
  | @group e' he' =>
    simp only [inOrder, List.cons_append, List.append_assoc, List.cons.injEq, true_and] at h
    have hends := ends_sequel (x := .closing) hS (by simp)
    obtain ⟨rfl, hrest⟩ := unique_of_operands G hS he hd he' (hends _) (hends _) h
    exact ⟨rfl, (List.cons.inj hrest).2⟩
  | leaf b => cases hs
  | call _ => cases hs
  | unary _ _ => cases hs
  | binary _ _ _ _ => cases hun

theorem delimited_call (hS : S.Legible) {f : φ} {args : List (Tree α φ β υ)}
    (ht : ∀ t ∈ args, t.Respects G ∧ ∀ x ∈ t.operands, Delimited G S x) :
    Delimited G S (.call f args) := by
  intro u xs ys hu hun h
  have hs := start_of_append hS h
  cases hu with
  | @call g args' hargs =>
    cases hs
    simp only [inOrder, List.cons_append, List.append_assoc, List.cons.injEq, true_and] at h
    obtain ⟨rfl, hrest⟩ := arguments_unique G hS ht hargs h
    exact ⟨rfl, hrest⟩
  | leaf b => cases hs
  | group _ => cases hs
  | unary _ _ => cases hs
  | binary _ _ _ _ => cases hun

theorem delimited_unary (hS : S.Legible) {v : υ} {e : Tree α φ β υ}
    (hd : Delimited G S e) : Delimited G S (.unary v e) := by
  intro u xs ys hu hun h
  have hs := start_of_append hS h
  cases hu with
  | @unary w e' he' hn' =>
    cases hs
    obtain ⟨rfl, hrest⟩ := hd e' xs ys he' hn' (List.cons.inj h).2
    exact ⟨rfl, hrest⟩
  | leaf b => cases hs
  | group _ => cases hs
  | call _ => cases hs
  | binary _ _ _ _ => cases hun

theorem Respects.delimited (hS : S.Legible) {t : Tree α φ β υ} (ht : t.Respects G) :
    ∀ x ∈ t.operands, Delimited G S x := by
  have single {t : Tree α φ β υ} (hn : t.head? = none) (hd : Delimited G S t) :
      ∀ x ∈ t.operands, Delimited G S x := by
    intro x hx
    rw [operands_of_head hn, List.mem_singleton] at hx
    rwa [hx]
  induction ht with
  | leaf a => exact single rfl (delimited_leaf G hS a)
  | group he ih => exact single rfl (delimited_group G hS he ih)
  | call hs ih => exact single rfl (delimited_call G hS fun t ht => ⟨hs t ht, ih t ht⟩)
  | @unary v e he hn ih =>
    rw [operands_of_head hn] at ih
    exact single rfl (delimited_unary G hS (ih e List.mem_cons_self))
  | binary _ _ _ _ hl hr =>
    intro x hx
    rw [operands_binary, List.mem_append] at hx
    exact hx.elim (hl x) (hr x)

theorem inOrder_injective (hS : S.Legible) {t u : Tree α φ β υ} (ht : t.Respects G)
    (hu : u.Respects G) (h : t.inOrder S = u.inOrder S) : t = u := by
  have hnil : Ends S [] := fun _ _ h => by cases h
  exact (unique_of_operands G hS ht (ht.delimited G hS) hu hnil hnil (by rw [h])).1

end Tree

end Reckoner
