import Reckoner.Builtin
import Reckoner.Proofs.Denotation
import Reckoner.Proofs.Literals
import Reckoner.Proofs.Precedence
import Reckoner.Proofs.Unambiguity

set_option autoImplicit false

namespace Reckoner

inductive Literal where
  | number (s : String) : Number.isNumeral Char.isDigit s.toList = true → Literal
  | text (s : String) : '"' ∉ s.toList → Literal
  | var (name : String) : Text.isIdentifier name.toList = true → Literal

namespace Literal

def lexeme : Literal → String
  | number s _ => s
  | text s _ => .ofList ('"' :: (s.toList ++ ['"']))
  | var name _ => .ofList ('$' :: name.toList)

def atom : Literal → Atom
  | number s _ => .number (Number.Numeral.take Char.isDigit s.toList).1.value
  | text s _ => .text s
  | var name _ => .var name

end Literal

structure FunctionName where
  name : String
  callable : Callable
  found : (Registry.default {}).function? name = some callable

inductive Sign where
  | plus | minus | times | divide | power
  deriving DecidableEq

namespace Sign

def lexeme : Sign → String
  | plus => "+"
  | minus => "-"
  | times => "*"
  | divide => "/"
  | power => "^"

def operator : Sign → Operator
  | plus => Builtin.plus
  | minus => Builtin.minus
  | times => Builtin.times
  | divide => Builtin.quotient false
  | power => Builtin.power

def strength : Sign → Nat
  | plus | minus => 1
  | times | divide => 2
  | power => 3

end Sign

abbrev Phrase := Tree Literal FunctionName Sign Unit

namespace Language

def lexemes : Script Literal FunctionName Sign Unit String where
  leaf := Literal.lexeme
  function := FunctionName.name
  binary := Sign.lexeme
  unary _ := "-"
  opening := "("
  closing := ")"
  comma := ","

def words : Lexicon Literal FunctionName Sign Unit where
  leaf := Literal.atom
  function := FunctionName.callable
  binary := Sign.operator
  unary _ := Builtin.negation

def meaning : Meaning Literal FunctionName Sign Unit where
  leaf := Literal.atom
  function := FunctionName.callable
  binary
    | .plus => ⟨"+", 1, .left, fun x y => .ok (x + y)⟩
    | .minus => ⟨"-", 1, .left, fun x y => .ok (x - y)⟩
    | .times => ⟨"*", 2, .left, fun x y => .ok (x * y)⟩
    | .divide => ⟨"/", 2, .left, Builtin.divide false⟩
    | .power => ⟨"^", 3, .right, fun x y => .ok (x.pow y)⟩
  unary _ := ⟨"-", 4, .right, fun x => .ok (-x)⟩

theorem meaning_lexicon : meaning.lexicon = words := by
  have hbinary : (fun o => (meaning.binary o).operator) = Sign.operator := by
    funext o
    cases o <;> rfl
  simp only [Meaning.lexicon, hbinary]
  rfl

/-- Only the power groups to the right. -/
def grouping : Grouping Sign where
  strength := Sign.strength
  groupsLeft strength := decide (strength < 3)

theorem popsBefore_operator (o p : Sign) :
    o.operator.popsBefore p.operator = decide (grouping.AllowsLeft o p) := by
  cases o <;> cases p <;> rfl

theorem popsBefore_negation (o : Sign) : o.operator.popsBefore Builtin.negation = true := by
  cases o <;> rfl

theorem negation_popsBefore (o : Sign) : Builtin.negation.popsBefore o.operator = false := by
  cases o <;> rfl

theorem popsBefore_rightSpine {t : Phrase} (ht : t.Respects grouping) {o : Sign}
    (h : ∀ p, t.head? = some p → grouping.AllowsLeft o p) :
    ∀ x ∈ t.rightSpine words, o.operator.popsBefore x = true := by
  induction ht with
  | @binary p l r _ _ _ hpr _ ih =>
    have hp : grouping.AllowsLeft o p := h p rfl
    rw [Tree.rightSpine, List.forall_mem_cons]
    refine ⟨?_, ih fun q hq => hp.trans grouping (hpr q hq)⟩
    exact (popsBefore_operator o p).trans (decide_eq_true hp)
  | unary _ hn ih =>
    rw [Tree.rightSpine, List.forall_mem_cons]
    exact ⟨popsBefore_negation o, ih fun q hq => absurd hq (by simp [hn])⟩
  | leaf a => exact List.forall_mem_nil _
  | group _ _ => exact List.forall_mem_nil _
  | call _ _ => exact List.forall_mem_nil _

theorem popsBefore_leftSpine {t : Phrase} (ht : t.Respects grouping) {o : Sign}
    (h : ∀ p, t.head? = some p → grouping.AllowsRight o p) :
    ∀ x ∈ t.leftSpine words, x.popsBefore o.operator = false := by
  induction ht with
  | @binary p l r _ _ hpl _ ih _ =>
    have hp : grouping.AllowsRight o p := h p rfl
    rw [Tree.leftSpine, List.forall_mem_cons]
    refine ⟨?_, ih fun q hq => hp.trans grouping (hpl q hq)⟩
    exact (popsBefore_operator p o).trans (decide_eq_false (grouping.allowsRight_iff.1 hp))
  | unary _ _ _ =>
    rw [Tree.leftSpine, List.forall_mem_singleton]
    exact negation_popsBefore o
  | leaf a => exact List.forall_mem_nil _
  | group _ _ => exact List.forall_mem_nil _
  | call _ _ => exact List.forall_mem_nil _

/-- Priorities and associativities put the operators where the grouping does. -/
theorem ordered_of_respects {t : Phrase} (ht : t.Respects grouping) : t.Ordered words := by
  induction ht with
  | leaf a => exact .leaf a
  | group _ ih => exact .group ih
  | call _ ih => exact .call ih
  | binary hl hr hol hor ihl ihr =>
    exact .binary ihl ihr (popsBefore_rightSpine hl hol) (popsBefore_leftSpine hr hor)
  | @unary u e _ hn ih =>
    refine .unary ih fun x hx => ?_
    cases e with
    | binary o l r => cases hn
    | unary v e =>
      rw [List.mem_singleton.1 hx]
      rfl
    | leaf a => cases hx
    | group e => cases hx
    | call f args => cases hx

inductive Initial where
  | digit | mark | sigil | letter | minus | bracket | other
  deriving DecidableEq

def Initial.ofChar (c : Char) : Initial :=
  if c.isDigit || c == '.' then .digit
  else if c = '"' then .mark
  else if c = '$' then .sigil
  else if c.isAlpha then .letter
  else if c = '-' then .minus
  else if c = '(' then .bracket
  else .other

def initial (lexeme : String) : Initial :=
  match lexeme.toList with
  | [] => .other
  | c :: _ => .ofChar c

theorem initial_number {text : String} (h : Number.isNumeral Char.isDigit text.toList = true) :
    initial text = .digit := by
  unfold initial
  cases ht : text.toList with
  | nil => rw [ht] at h; cases h
  | cons c cs =>
    rw [ht] at h
    rcases Number.isNumeral_cons h with hc | rfl
    · simp [Initial.ofChar, hc]
    · rfl

theorem initial_text (cs : List Char) : initial (.ofList ('"' :: cs)) = .mark := by
  simp only [initial, String.toList_ofList]
  rfl

theorem initial_var (cs : List Char) : initial (.ofList ('$' :: cs)) = .sigil := by
  simp only [initial, String.toList_ofList]
  rfl

theorem mem_names_of_find? {α : Type} {name : String} {entries : List (String × α)} {a : α}
    (h : Bindings.find? name entries = some a) : name ∈ entries.map (·.1) := by
  induction entries with
  | nil => cases h
  | cons e entries ih =>
    obtain ⟨k, v⟩ := e
    by_cases hk : k = name
    · exact hk ▸ List.mem_cons_self
    · rw [Bindings.find?, if_neg hk] at h
      exact List.mem_cons_of_mem k (ih h)

theorem functionNames : (Registry.default {}).functions.entries.map (·.1) =
    ["acos", "asin", "atn", "avg", "cos", "max", "min", "sin", "tn"] := rfl

theorem initial_function {name : String}
    (h : ((Registry.default {}).function? name).isSome = true) : initial name = .letter := by
  obtain ⟨f, hf⟩ := Option.isSome_iff_exists.1 h
  have hm := mem_names_of_find? hf
  rw [functionNames] at hm
  have hall : ∀ n ∈ ["acos", "asin", "atn", "avg", "cos", "max", "min", "sin", "tn"],
      initial n = .letter := by decide
  exact hall name hm

def Literal.kind : Literal → Initial
  | .number _ _ => .digit
  | .text _ _ => .mark
  | .var _ _ => .sigil

def kind : Start Literal FunctionName Unit → Initial
  | .leaf a => Literal.kind a
  | .function _ => .letter
  | .unary _ => .minus
  | .opening => .bracket

theorem initial_literal (a : Literal) : initial a.lexeme = Literal.kind a := by
  cases a with
  | number s h => exact initial_number h
  | text s _ => exact initial_text _
  | var name _ => exact initial_var _

theorem initial_start (x : Start Literal FunctionName Unit) :
    initial (lexemes.start x) = kind x := by
  cases x with
  | leaf a => exact initial_literal a
  | function f =>
    have hf : ((Registry.default {}).function? f.name).isSome = true := by rw [f.found]; rfl
    exact initial_function hf
  | unary u => exact show initial "-" = .minus by decide
  | opening => decide

theorem lexeme_injective {a b : Literal} (h : a.lexeme = b.lexeme) : a = b := by
  have hk : Literal.kind a = Literal.kind b := by rw [← initial_literal, ← initial_literal, h]
  cases a with
  | number s _ =>
    cases b with
    | number t _ =>
      have hst : s = t := h
      subst hst
      rfl
    | text _ _ => cases hk
    | var _ _ => cases hk
  | text s _ =>
    cases b with
    | text t _ =>
      have hst : s = t := by
        have hcons := (List.cons.inj (String.ofList_injective h)).2
        exact String.toList_inj.1 (List.append_cancel_right hcons)
      subst hst
      rfl
    | number _ _ => cases hk
    | var _ _ => cases hk
  | var name _ =>
    cases b with
    | var name' _ =>
      have hnn : name = name' :=
        String.toList_inj.1 (List.cons.inj (String.ofList_injective h)).2
      subst hnn
      rfl
    | number _ _ => cases hk
    | text _ _ => cases hk

theorem name_injective {f g : FunctionName} (h : f.name = g.name) : f = g := by
  obtain ⟨name, f, hf⟩ := f
  obtain ⟨name', g, hg⟩ := g
  have hnn : name = name' := h
  subst hnn
  have hfg : f = g := Option.some.inj (hf.symm.trans hg)
  subst hfg
  rfl

theorem start_injective : Function.Injective lexemes.start := by
  intro x y h
  have hk : kind x = kind y := by rw [← initial_start, ← initial_start, h]
  cases x with
  | leaf a =>
    cases y with
    | leaf b => rw [lexeme_injective h]
    | function g => cases a <;> cases hk
    | unary u => cases a <;> cases hk
    | opening => cases a <;> cases hk
  | function f =>
    cases y with
    | function g => rw [name_injective h]
    | leaf b => cases b <;> cases hk
    | unary u => cases hk
    | opening => cases hk
  | unary u =>
    cases y with
    | unary v => rfl
    | leaf b => cases b <;> cases hk
    | function g => cases hk
    | opening => cases hk
  | opening =>
    cases y with
    | opening => rfl
    | leaf b => cases b <;> cases hk
    | function g => cases hk
    | unary u => cases hk

theorem sequel_injective : Function.Injective lexemes.sequel := by
  intro x y h
  cases x with
  | binary o =>
    cases y with
    | binary p => cases o <;> cases p <;> first | rfl | exact absurd h (by decide)
    | closing => cases o <;> exact absurd h (by decide)
    | comma => cases o <;> exact absurd h (by decide)
  | closing =>
    cases y with
    | binary p => cases p <;> exact absurd h (by decide)
    | closing => rfl
    | comma => exact absurd h (by decide)
  | comma =>
    cases y with
    | binary p => cases p <;> exact absurd h (by decide)
    | closing => exact absurd h (by decide)
    | comma => rfl

theorem start_ne_closing (x : Start Literal FunctionName Unit) :
    lexemes.start x ≠ lexemes.closing := by
  intro h
  have hk : kind x = .other := by rw [← initial_start, h]; decide
  cases x with
  | leaf a => cases a <;> cases hk
  | function f => cases hk
  | unary u => cases hk
  | opening => cases hk

theorem legible : lexemes.Legible := ⟨start_injective, sequel_injective, start_ne_closing⟩

end Language

end Reckoner
