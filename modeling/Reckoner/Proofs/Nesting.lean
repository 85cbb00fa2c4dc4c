import Reckoner.Proofs.Tree

set_option autoImplicit false

namespace Reckoner

structure Brackets (σ : Type) where
  opens : σ → Bool
  closes : σ → Bool

namespace Brackets

variable {α φ β υ σ : Type} (B : Brackets σ)

def deepest (depth : Nat) : List σ → Nat
  | [] => depth
  | t :: ts =>
    max depth (deepest
      (if B.opens t then depth + 1 else if B.closes t then depth - 1 else depth) ts)

def nesting (ts : List σ) : Nat := B.deepest 0 ts

def Plain (t : σ) : Prop := B.opens t = false ∧ B.closes t = false

structure Fits (S : Script α φ β υ σ) : Prop where
  opening : B.opens S.opening = true
  closing : B.opens S.closing = false ∧ B.closes S.closing = true
  leaf : ∀ a, B.Plain (S.leaf a)
  function : ∀ f, B.Plain (S.function f)
  binary : ∀ o, B.Plain (S.binary o)
  unary : ∀ u, B.Plain (S.unary u)
  comma : B.Plain S.comma

theorem le_deepest (depth : Nat) (ts : List σ) : depth ≤ B.deepest depth ts := by
  cases ts with
  | nil => exact Nat.le_refl depth
  | cons t ts => exact Nat.le_max_left _ _

variable {B} {S : Script α φ β υ σ}

theorem deepest_plain {t : σ} (h : B.Plain t) (depth : Nat) (ts : List σ) :
    B.deepest depth (t :: ts) = max depth (B.deepest depth ts) := by
  simp only [deepest, h.1, h.2, Bool.false_eq_true, if_false]

theorem Fits.deepest_opening (h : B.Fits S) (depth : Nat) (ts : List σ) :
    B.deepest depth (S.opening :: ts) = max depth (B.deepest (depth + 1) ts) := by
  rw [deepest, if_pos h.opening]

theorem Fits.deepest_closing (h : B.Fits S) (depth : Nat) (ts : List σ) :
    B.deepest (depth + 1) (S.closing :: ts) = max (depth + 1) (B.deepest depth ts) := by
  simp only [deepest, h.closing.1, h.closing.2, Bool.false_eq_true, if_false, if_true,
    Nat.add_sub_cancel]

variable (B) in
/-- However deep the brackets around it are, this part of a text adds `depth`. -/
def Nests (ts : List σ) (depth : Nat) : Prop :=
  ∀ (d : Nat) (rest : List σ), B.deepest d (ts ++ rest) = max (d + depth) (B.deepest d rest)

namespace Fits

theorem nests_furtherArguments (hB : B.Fits S) {ts : List (Tree α φ β υ)}
    (h : ∀ t ∈ ts, B.Nests (t.inOrder S) t.depth) :
    B.Nests (Tree.furtherArguments S ts) (Tree.depths ts) := by
  intro d rest
  induction ts with
  | nil =>
    have hd := B.le_deepest d rest
    simp only [Tree.furtherArguments, List.nil_append, Tree.depths]
    omega
  | cons t ts ih =>
    have ht := h t List.mem_cons_self d (Tree.furtherArguments S ts ++ rest)
    have hts := ih fun u hu => h u (List.mem_cons_of_mem t hu)
    simp only [Tree.furtherArguments, List.cons_append, List.append_assoc, Tree.depths,
      deepest_plain hB.comma]
    omega

theorem nests_arguments (hB : B.Fits S) {ts : List (Tree α φ β υ)}
    (h : ∀ t ∈ ts, B.Nests (t.inOrder S) t.depth) :
    B.Nests (Tree.arguments S ts) (Tree.depths ts) := by
  intro d rest
  cases ts with
  | nil =>
    have hd := B.le_deepest d rest
    simp only [Tree.arguments, List.nil_append, Tree.depths]
    omega
  | cons t ts =>
    have ht := h t List.mem_cons_self d (Tree.furtherArguments S ts ++ rest)
    have hts := hB.nests_furtherArguments (fun u hu => h u (List.mem_cons_of_mem t hu)) d rest
    simp only [Tree.arguments, List.append_assoc, Tree.depths]
    omega

theorem nests_inOrder (hB : B.Fits S) (t : Tree α φ β υ) : B.Nests (t.inOrder S) t.depth := by
  induction t with
  | leaf a =>
    intro d rest
    exact deepest_plain (hB.leaf a) d rest
  | group e ih =>
    intro d rest
    simp only [Tree.inOrder, List.cons_append, List.append_assoc, List.nil_append, Tree.depth,
      hB.deepest_opening, ih (d + 1), hB.deepest_closing]
    omega
  | call f args ih =>
    intro d rest
    simp only [Tree.inOrder, List.cons_append, List.append_assoc, List.nil_append, Tree.depth,
      deepest_plain (hB.function f), hB.deepest_opening, hB.nests_arguments ih (d + 1),
      hB.deepest_closing]
    omega
  | binary o l r hl hr =>
    intro d rest
    simp only [Tree.inOrder, List.cons_append, List.append_assoc, Tree.depth, hl d,
      deepest_plain (hB.binary o), hr d]
    omega
  | unary u e ih =>
    intro d rest
    simp only [Tree.inOrder, List.cons_append, Tree.depth, deepest_plain (hB.unary u), ih d]
    omega

/-- The depth of brackets in what is written of a tree is that of the tree. -/
theorem nesting_inOrder (hB : B.Fits S) (t : Tree α φ β υ) :
    B.nesting (t.inOrder S) = t.depth := by
  have h := hB.nests_inOrder t 0 []
  rw [List.append_nil, Nat.zero_add] at h
  exact h.trans (Nat.max_zero t.depth)

end Fits

end Brackets

def Token.brackets : Brackets Token where
  opens
    | .leftBracket => true
    | _ => false
  closes
    | .rightBracket => true
    | _ => false

theorem Token.brackets_fits {α φ β υ : Type} (L : Lexicon α φ β υ) :
    brackets.Fits L.script where
  opening := rfl
  closing := ⟨rfl, rfl⟩
  leaf a := by simp only [Lexicon.script_leaf]; cases L.leaf a <;> exact ⟨rfl, rfl⟩
  function _ := ⟨rfl, rfl⟩
  binary _ := ⟨rfl, rfl⟩
  unary _ := ⟨rfl, rfl⟩
  comma := ⟨rfl, rfl⟩

end Reckoner
