import Reckoner.Proofs.Tree

/-! The infix grammar of expressions, over any script. Each node of a tree is written as the grammar
asks. A weaker condition only looks at neighbours: where an operand is due, one has to begin, and
after an operand something has to follow that can. It does not count brackets.
-/

set_option autoImplicit false

namespace Reckoner

inductive Category where
  /-- Signed operands with binary operators between them. -/
  | sentence
  /-- A primary after any number of unary operators. -/
  | signed
  | primary
  /-- Sentences with commas between them, one at least. -/
  | arguments

variable {α φ β υ σ : Type}

inductive Derives (S : Script α φ β υ σ) : Category → List σ → Prop where
  | one {ts : List σ} : Derives S .signed ts → Derives S .sentence ts
  | more {ts us : List σ} (o : β) : Derives S .sentence ts → Derives S .signed us →
      Derives S .sentence (ts ++ S.binary o :: us)
  | plain {ts : List σ} : Derives S .primary ts → Derives S .signed ts
  | unary {ts : List σ} (u : υ) : Derives S .signed ts → Derives S .signed (S.unary u :: ts)
  | leaf (a : α) : Derives S .primary [S.leaf a]
  | group {ts : List σ} : Derives S .sentence ts →
      Derives S .primary (S.opening :: (ts ++ [S.closing]))
  | empty (f : φ) : Derives S .primary [S.function f, S.opening, S.closing]
  | call {ts : List σ} (f : φ) : Derives S .arguments ts →
      Derives S .primary (S.function f :: S.opening :: (ts ++ [S.closing]))
  | argument {ts : List σ} : Derives S .sentence ts → Derives S .arguments ts
  | further {ts us : List σ} : Derives S .arguments ts → Derives S .sentence us →
      Derives S .arguments (ts ++ S.comma :: us)

namespace Derives

variable {S : Script α φ β υ σ} {ts us : List σ}

theorem unary_sentence (u : υ) (h : Derives S .sentence ts) :
    Derives S .sentence (S.unary u :: ts) := by
  generalize hc : Category.sentence = c at h
  induction h with
  | one h _ => exact .one (.unary u h)
  | more o _ hr ih _ => exact .more o (ih hc) hr
  | plain | unary | leaf | group | empty | call | argument | further => cases hc

theorem unary_arguments (u : υ) (h : Derives S .arguments ts) :
    Derives S .arguments (S.unary u :: ts) := by
  generalize hc : Category.arguments = c at h
  induction h with
  | argument h _ => exact .argument (unary_sentence u h)
  | further _ hs ih _ => exact .further (ih hc) hs
  | one | more | plain | unary | leaf | group | empty | call => cases hc

theorem sentence_binary (o : β) (ht : Derives S .sentence ts) (h : Derives S .sentence us) :
    Derives S .sentence (ts ++ S.binary o :: us) := by
  generalize hc : Category.sentence = c at h
  induction h with
  | one h _ => exact .more o ht h
  | more p _ hr ih _ =>
    have hj := more p (ih hc) hr
    rwa [List.append_assoc, List.cons_append] at hj
  | plain | unary | leaf | group | empty | call | argument | further => cases hc

theorem arguments_sentence (o : β) (ht : Derives S .arguments ts) (h : Derives S .sentence us) :
    Derives S .arguments (ts ++ S.binary o :: us) := by
  cases ht with
  | argument ht => exact .argument (sentence_binary o ht h)
  | further ht hs =>
    have hj := further ht (sentence_binary o hs h)
    rwa [← List.cons_append, ← List.append_assoc] at hj

theorem arguments_binary (o : β) (ht : Derives S .arguments ts) (h : Derives S .arguments us) :
    Derives S .arguments (ts ++ S.binary o :: us) := by
  generalize hc : Category.arguments = c at h
  induction h with
  | argument h _ => exact arguments_sentence o ht h
  | further _ hs ih _ =>
    have hj := further (ih hc) hs
    rwa [List.append_assoc, List.cons_append] at hj
  | one | more | plain | unary | leaf | group | empty | call => cases hc

theorem arguments_comma (ht : Derives S .arguments ts) (h : Derives S .arguments us) :
    Derives S .arguments (ts ++ S.comma :: us) := by
  generalize hc : Category.arguments = c at h
  induction h with
  | argument h _ => exact .further ht h
  | further _ hs ih _ =>
    have hj := further (ih hc) hs
    rwa [List.append_assoc, List.cons_append] at hj
  | one | more | plain | unary | leaf | group | empty | call => cases hc

end Derives

/-- What may come next. -/
inductive Place where
  | due
  | complete

/-- Each symbol fits the one before it. Whether a bracket is closed, and which, is not looked at. -/
inductive InPlace (S : Script α φ β υ σ) : Place → List σ → Prop where
  | leaf {ts : List σ} (a : α) : InPlace S .complete ts → InPlace S .due (S.leaf a :: ts)
  | unary {ts : List σ} (u : υ) : InPlace S .due ts → InPlace S .due (S.unary u :: ts)
  | group {ts : List σ} : InPlace S .due ts → InPlace S .due (S.opening :: ts)
  | empty {ts : List σ} (f : φ) : InPlace S .complete ts →
      InPlace S .due (S.function f :: S.opening :: S.closing :: ts)
  | call {ts : List σ} (f : φ) : InPlace S .due ts →
      InPlace S .due (S.function f :: S.opening :: ts)
  | binary {ts : List σ} (o : β) : InPlace S .due ts → InPlace S .complete (S.binary o :: ts)
  | closing {ts : List σ} : InPlace S .complete ts → InPlace S .complete (S.closing :: ts)
  | comma {ts : List σ} : InPlace S .due ts → InPlace S .complete (S.comma :: ts)
  | last : InPlace S .complete []

/-- What the grammar derives can stand where an operand is due. -/
theorem Derives.inPlace {S : Script α φ β υ σ} {c : Category} {ts : List σ} (h : Derives S c ts)
    {rest : List σ} (hr : InPlace S .complete rest) : InPlace S .due (ts ++ rest) := by
  induction h generalizing rest with
  | one _ ih => exact ih hr
  | more o _ _ hl hu =>
    rw [List.append_assoc]
    exact hl (.binary o (hu hr))
  | plain _ ih => exact ih hr
  | unary u _ ih => exact .unary u (ih hr)
  | leaf a => exact .leaf a hr
  | group _ ih =>
    rw [List.cons_append, List.append_assoc]
    exact .group (ih (.closing hr))
  | empty f => exact .empty f hr
  | call f _ ih =>
    rw [List.cons_append, List.cons_append, List.append_assoc]
    exact .call f (ih (.closing hr))
  | argument _ ih => exact ih hr
  | further _ _ hl hu =>
    rw [List.append_assoc]
    exact hl (.comma (hu hr))

end Reckoner
