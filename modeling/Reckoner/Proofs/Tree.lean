import Reckoner.Token

set_option autoImplicit false

namespace Reckoner

/-- The kinds of leaves, functions, binary and unary operators are parameters. -/
inductive Tree (α φ β υ : Type) where
  | leaf : α → Tree α φ β υ
  | group : Tree α φ β υ → Tree α φ β υ
  | call : φ → List (Tree α φ β υ) → Tree α φ β υ
  | binary : β → Tree α φ β υ → Tree α φ β υ → Tree α φ β υ
  | unary : υ → Tree α φ β υ → Tree α φ β υ

structure Script (α φ β υ σ : Type) where
  leaf : α → σ
  function : φ → σ
  binary : β → σ
  unary : υ → σ
  opening : σ
  closing : σ
  comma : σ

inductive Script.Symbol {α φ β υ σ : Type} (S : Script α φ β υ σ) : σ → Prop where
  | leaf (a : α) : Symbol S (S.leaf a)
  | function (f : φ) : Symbol S (S.function f)
  | binary (o : β) : Symbol S (S.binary o)
  | unary (u : υ) : Symbol S (S.unary u)
  | opening : Symbol S S.opening
  | closing : Symbol S S.closing
  | comma : Symbol S S.comma

namespace Tree

variable {α φ β υ σ : Type}

/-- Induction with one hypothesis for all arguments of a call. -/
@[elab_as_elim, induction_eliminator]
theorem ind {motive : Tree α φ β υ → Prop} (leaf : ∀ a, motive (.leaf a))
    (group : ∀ e, motive e → motive (.group e))
    (call : ∀ f args, (∀ t ∈ args, motive t) → motive (.call f args))
    (binary : ∀ o l r, motive l → motive r → motive (.binary o l r))
    (unary : ∀ u e, motive e → motive (.unary u e)) : ∀ t, motive t
  | .leaf a => leaf a
  | .group e => group e (ind leaf group call binary unary e)
  | .call f args => call f args fun t _ => ind leaf group call binary unary t
  | .binary o l r =>
    binary o l r (ind leaf group call binary unary l) (ind leaf group call binary unary r)
  | .unary u e => unary u e (ind leaf group call binary unary e)

mutual

/-- How deep brackets nest, those of calls included. -/
def depth : Tree α φ β υ → Nat
  | .leaf _ => 0
  | .group e => e.depth + 1
  | .call _ args => depths args + 1
  | .binary _ l r => max l.depth r.depth
  | .unary _ e => e.depth

def depths : List (Tree α φ β υ) → Nat
  | [] => 0
  | t :: ts => max t.depth (depths ts)

end

mutual

def inOrder (S : Script α φ β υ σ) : Tree α φ β υ → List σ
  | .leaf a => [S.leaf a]
  | .group e => S.opening :: (e.inOrder S ++ [S.closing])
  | .call f args => S.function f :: S.opening :: (arguments S args ++ [S.closing])
  | .binary o l r => l.inOrder S ++ S.binary o :: r.inOrder S
  | .unary u e => S.unary u :: e.inOrder S

def arguments (S : Script α φ β υ σ) : List (Tree α φ β υ) → List σ
  | [] => []
  | t :: ts => t.inOrder S ++ furtherArguments S ts

def furtherArguments (S : Script α φ β υ σ) : List (Tree α φ β υ) → List σ
  | [] => []
  | t :: ts => S.comma :: (t.inOrder S ++ furtherArguments S ts)

end

mutual

def postorder (S : Script α φ β υ σ) : Tree α φ β υ → List σ
  | .leaf a => [S.leaf a]
  | .group e => e.postorder S
  | .call f args => S.opening :: (postorders S args ++ [S.function f])
  | .binary o l r => l.postorder S ++ (r.postorder S ++ [S.binary o])
  | .unary u e => e.postorder S ++ [S.unary u]

def postorders (S : Script α φ β υ σ) : List (Tree α φ β υ) → List σ
  | [] => []
  | t :: ts => t.postorder S ++ postorders S ts

end

end Tree

def Token.closes : Token → Bool
  | number _ | text _ | var _ | identifier _ | rightBracket => true
  | _ => false

inductive Atom where
  | number : Float → Atom
  | text : String → Atom
  | var : String → Atom
  | identifier : String → Atom

def Atom.token : Atom → Token
  | number x => .number x
  | text s => .text s
  | var name => .var name
  | identifier name => .identifier name

theorem Atom.closes_token (a : Atom) : a.token.closes = true := by cases a <;> rfl

structure Lexicon (α φ β υ : Type) where
  leaf : α → Atom
  function : φ → Callable
  binary : β → Operator
  unary : υ → Operator

namespace Lexicon

variable {α φ β υ : Type} (L : Lexicon α φ β υ)

def script : Script α φ β υ Token where
  leaf a := (L.leaf a).token
  function f := .function (L.function f)
  binary o := .operator (L.binary o)
  unary u := .operator (L.unary u)
  opening := .leftBracket
  closing := .rightBracket
  comma := .comma

@[simp] theorem script_leaf (a : α) : L.script.leaf a = (L.leaf a).token := rfl
@[simp] theorem script_function (f : φ) : L.script.function f = .function (L.function f) := rfl
@[simp] theorem script_binary (o : β) : L.script.binary o = .operator (L.binary o) := rfl
@[simp] theorem script_unary (u : υ) : L.script.unary u = .operator (L.unary u) := rfl
@[simp] theorem script_opening : L.script.opening = .leftBracket := rfl
@[simp] theorem script_closing : L.script.closing = .rightBracket := rfl
@[simp] theorem script_comma : L.script.comma = .comma := rfl

end Lexicon

end Reckoner
