import Reckoner.Evaluation
import Reckoner.Proofs.Popping
import Reckoner.Proofs.Tree

/-! What an expression tree denotes, and its evaluation in postorder. The denotation of a tree is
its value or the first failure, with the applications up to there. The evaluation of its postorder
gives the same on any operand stack, and touches nothing below.
-/

set_option autoImplicit false

namespace Reckoner

/-- An answer, and the applications recorded up to it. -/
abbrev Traced (α : Type) := Except Error α × List Application

namespace Traced

variable {α β γ : Type}

def pure (a : α) : Traced α := (.ok a, [])

def fail (e : Error) : Traced α := (.error e, [])

def bind (x : Traced α) (f : α → Traced β) : Traced β :=
  match x with
  | (.error e, applications) => (.error e, applications)
  | (.ok a, applications) => ((f a).1, applications ++ (f a).2)

theorem pure_bind (a : α) (f : α → Traced β) : (pure a).bind f = f a := rfl

theorem bind_assoc (x : Traced α) (f : α → Traced β) (g : β → Traced γ) :
    (x.bind f).bind g = x.bind fun a => (f a).bind g := by
  obtain ⟨e | a, applications⟩ := x
  · rfl
  · simp only [bind]
    obtain ⟨e | b, more⟩ := f a
    · rfl
    · simp

/-- Records an application when it succeeds. -/
def recorded (name : String) (operands : List Value) : Except Error Value → Traced Value
  | .error e => fail e
  | .ok v => (.ok v, [⟨name, operands, v⟩])

end Traced

structure BinaryOperator where
  symbol : String
  priority : Int
  associativity : Associativity
  apply : Float → Float → Except Error Float

structure UnaryOperator where
  symbol : String
  priority : Int
  associativity : Associativity
  apply : Float → Except Error Float

def BinaryOperator.operator (o : BinaryOperator) : Operator :=
  .binary o.symbol o.priority o.associativity o.apply

def UnaryOperator.operator (o : UnaryOperator) : Operator :=
  .unary o.symbol o.priority o.associativity o.apply

/-- The right operand is looked at first. -/
def BinaryOperator.result (o : BinaryOperator) : Value → Value → Except Error Value
  | _, .text s => .error (.notANumber s)
  | .text s, .number _ => .error (.notANumber s)
  | .number x, .number y => (o.apply x y).map .number

def UnaryOperator.result (o : UnaryOperator) : Value → Except Error Value
  | .text s => .error (.notANumber s)
  | .number x => (o.apply x).map .number

namespace Callable

def takes (f : Callable) (count : Nat) : Bool :=
  if f.variadic then decide (f.minimum ≤ count) else decide (count = f.minimum)

/-- Memory for the arguments comes first, then their number. -/
def result (f : Callable) (args : List Value) : Except Error Value :=
  if capacity < f.minimum then .error .capacityOverflow
  else if f.takes args.length then f.call args
  else .error (.wrongArguments f.name)

end Callable

def Atom.value (env : String → Option Float) : Atom → Except Error Value
  | number x => .ok (.number x)
  | text s | identifier s => .ok (.text s)
  | var name =>
    match env name with
    | some x => .ok (.number x)
    | none => .error (.unknownVariable name)

structure Meaning (α φ β υ : Type) where
  leaf : α → Atom
  function : φ → Callable
  binary : β → BinaryOperator
  unary : υ → UnaryOperator

def Meaning.lexicon {α φ β υ : Type} (M : Meaning α φ β υ) : Lexicon α φ β υ where
  leaf := M.leaf
  function := M.function
  binary o := (M.binary o).operator
  unary u := (M.unary u).operator

namespace Tree

variable {α φ β υ : Type} (M : Meaning α φ β υ) (env : String → Option Float)

mutual

/-- Operands are evaluated from left to right, and then the node. -/
def denote : Tree α φ β υ → Traced Value
  | .leaf a => ((M.leaf a).value env, [])
  | .group e => e.denote
  | .call f args => (denotes args).bind fun vs =>
    .recorded (M.function f).name vs ((M.function f).result vs)
  | .binary o l r => l.denote.bind fun x => r.denote.bind fun y =>
    .recorded (M.binary o).symbol [x, y] ((M.binary o).result x y)
  | .unary u e => e.denote.bind fun x =>
    .recorded (M.unary u).symbol [x] ((M.unary u).result x)

def denotes : List (Tree α φ β υ) → Traced (List Value)
  | [] => .pure []
  | t :: ts => t.denote.bind fun v => (denotes ts).bind fun vs => .pure (v :: vs)

end

end Tree

theorem popCount_values (n : Nat) (args vs : List Value) (items : List Operand) :
    popCount n args (vs.map .value ++ .marker :: items) =
      if n ≤ vs.length then
        some ((vs.take n).reverse ++ args, (vs.drop n).map .value ++ .marker :: items)
      else none := by
  induction n generalizing args vs with
  | zero => simp [popCount]
  | succ n ih =>
    cases vs with
    | nil => simp [popCount]
    | cons v vs => simp [popCount, ih]

theorem popToMarker_values (args vs : List Value) (items : List Operand) :
    popToMarker args (vs.map .value ++ .marker :: items) = some (vs.reverse ++ args, items) := by
  induction vs generalizing args with
  | nil => rfl
  | cons v vs ih => simp [popToMarker, ih]

theorem Callable.arguments?_values (f : Callable) (vs : List Value) (items : List Operand) :
    f.arguments? (vs.map .value ++ .marker :: items) =
      if f.takes vs.length then some (vs.reverse, items) else none := by
  simp only [arguments?, popCount_values, List.append_nil]
  by_cases hn : f.minimum ≤ vs.length
  · rw [if_pos hn]
    have hall : (vs.drop f.minimum).reverse ++ (vs.take f.minimum).reverse = vs.reverse := by
      rw [← List.reverse_append, List.take_append_drop]
    cases hv : f.variadic with
    | true => simp only [takes, hv, hn, popToMarker_values, hall, if_true, decide_true]
    | false =>
      by_cases he : vs.length = f.minimum
      · have hdrop : vs.drop f.minimum = [] := List.drop_eq_nil_of_le (by omega)
        have htake : vs.take f.minimum = vs := List.take_of_length_le (by omega)
        simp [takes, hv, he, hdrop, htake]
      · obtain ⟨v, rest, hdrop⟩ := List.exists_cons_of_length_pos
          (l := vs.drop f.minimum) (by rw [List.length_drop]; omega)
        simp [takes, hv, he, hdrop]
  · rw [if_neg hn]
    cases hv : f.variadic with
    | true => simp [takes, hv, hn]
    | false => simp [takes, hv, show vs.length ≠ f.minimum by omega]

theorem Callable.collect_values (f : Callable) (vs : List Value) (items : List Operand) :
    f.collect (vs.reverse.map .value ++ .marker :: items) =
      if capacity < f.minimum then .error .capacityOverflow
      else if f.takes vs.length then .ok (vs, items)
      else .error (.wrongArguments f.name) := by
  unfold collect
  rw [arguments?_values, List.length_reverse, List.reverse_reverse]
  cases f.takes vs.length <;> rfl

theorem BinaryOperator.execute_numbers (o : BinaryOperator) (x y : Float) (items : List Operand)
    (popped : List Value) :
    o.operator.execute ⟨.value (.number y) :: .value (.number x) :: items, popped⟩ =
      ((o.apply x y).map .number, ⟨items, .number x :: .number y :: popped⟩) := by
  simp only [operator, Operator.binary]
  rw [popping_bind (popNumber_number ..), popping_bind (popNumber_number ..)]
  cases o.apply x y with
  | error e => rfl
  | ok z => rfl

theorem UnaryOperator.execute_number (o : UnaryOperator) (x : Float) (items : List Operand)
    (popped : List Value) :
    o.operator.execute ⟨.value (.number x) :: items, popped⟩ =
      ((o.apply x).map .number, ⟨items, .number x :: popped⟩) := by
  simp only [operator, Operator.unary]
  rw [popping_bind (popNumber_number ..)]
  cases o.apply x with
  | error e => rfl
  | ok z => rfl

namespace Evaluation

variable (env : String → Option Float) (items : List Operand) (rest : List Token)

theorem run_application {t : Token} {x : Except Error Value} {name : String}
    {operands : List Value} {below : List Operand}
    (h : step env items t = x.map fun v => (.value v :: below, some ⟨name, operands, v⟩)) :
    run env items (t :: rest) =
      (Traced.recorded name operands x).bind fun v => run env (.value v :: below) rest := by
  cases x with
  | error e => simp only [run, h]; rfl
  | ok v => simp only [run, h]; rfl

theorem step_binary (o : BinaryOperator) (x y : Value) :
    step env (.value y :: .value x :: items) (.operator o.operator) =
      (o.result x y).map fun v => (.value v :: items, some ⟨o.symbol, [x, y], v⟩) := by
  cases y with
  | text s => rfl
  | number y =>
    cases x with
    | text s => rfl
    | number x =>
      simp only [step, applyOperator, List.isEmpty_cons, Bool.false_eq_true, if_false,
        o.execute_numbers, BinaryOperator.result]
      cases o.apply x y with
      | error e => rfl
      | ok z => rfl

theorem step_unary (o : UnaryOperator) (x : Value) :
    step env (.value x :: items) (.operator o.operator) =
      (o.result x).map fun v => (.value v :: items, some ⟨o.symbol, [x], v⟩) := by
  cases x with
  | text s => rfl
  | number x =>
    simp only [step, applyOperator, List.isEmpty_cons, Bool.false_eq_true, if_false,
      o.execute_number, UnaryOperator.result]
    cases o.apply x with
    | error e => rfl
    | ok z => rfl

theorem step_function (f : Callable) (vs : List Value) :
    step env (vs.reverse.map .value ++ .marker :: items) (.function f) =
      (f.result vs).map fun v => (.value v :: items, some ⟨f.name, vs, v⟩) := by
  simp only [step, applyFunction, Callable.collect_values, Callable.result]
  by_cases hc : Callable.capacity < f.minimum
  · simp [hc, Except.map]
  · cases ht : f.takes vs.length with
    | false => simp [hc, Except.map]
    | true =>
      simp only [hc, if_true, if_false]
      cases f.call vs with
      | error e => rfl
      | ok v => rfl

theorem run_atom (a : Atom) :
    run env items (a.token :: rest) =
      Traced.bind (a.value env, []) fun v => run env (.value v :: items) rest := by
  cases a with
  | number x => rfl
  | text s => rfl
  | identifier s => rfl
  | var name =>
    simp only [run, Atom.token, step, Atom.value]
    cases env name with
    | none => rfl
    | some x => rfl

theorem run_marker :
    run env items (.leftBracket :: rest) = run env (.marker :: items) rest := rfl

end Evaluation

namespace Tree

variable {α φ β υ : Type} (M : Meaning α φ β υ) (env : String → Option Float)

/-- The postorder of a tree leaves its value on the stack and whatever lies below. -/
def Evaluates (t : Tree α φ β υ) : Prop :=
  ∀ (items : List Operand) (rest : List Token),
    Evaluation.run env items (t.postorder M.lexicon.script ++ rest) =
      (t.denote M env).bind fun v => Evaluation.run env (.value v :: items) rest

theorem run_postorders {ts : List (Tree α φ β υ)} (h : ∀ t ∈ ts, Evaluates M env t)
    (items : List Operand) (rest : List Token) :
    Evaluation.run env items (postorders M.lexicon.script ts ++ rest) =
      (denotes M env ts).bind fun vs =>
        Evaluation.run env (vs.reverse.map .value ++ items) rest := by
  induction ts generalizing items with
  | nil => rfl
  | cons t ts ih =>
    have ht : Evaluates M env t := h t List.mem_cons_self
    have hts := ih (fun u hu => h u (List.mem_cons_of_mem t hu))
    simp only [postorders, denotes, List.append_assoc, Traced.bind_assoc, Traced.pure_bind]
    rw [ht items]
    simp only [hts, List.reverse_cons, List.map_append, List.map_cons, List.map_nil,
      List.append_assoc, List.cons_append, List.nil_append]

theorem evaluates (t : Tree α φ β υ) : Evaluates M env t := by
  induction t with
  | leaf a =>
    intro items rest
    exact Evaluation.run_atom env items rest (M.leaf a)
  | group e ih => exact ih
  | call f args ih =>
    intro items rest
    simp only [postorder, denote, List.cons_append, List.append_assoc, Traced.bind_assoc]
    refine (Evaluation.run_marker env items _).trans ?_
    rw [run_postorders M env ih]
    refine congrArg _ (funext fun vs => ?_)
    exact Evaluation.run_application env _ rest (Evaluation.step_function env items _ vs)
  | binary o l r hl hr =>
    intro items rest
    simp only [postorder, denote, List.append_assoc, Traced.bind_assoc]
    rw [hl items]
    refine congrArg _ (funext fun x => ?_)
    rw [hr (.value x :: items)]
    refine congrArg _ (funext fun y => ?_)
    exact Evaluation.run_application env _ rest (Evaluation.step_binary env items _ x y)
  | unary u e ih =>
    intro items rest
    simp only [postorder, denote, List.append_assoc, Traced.bind_assoc]
    rw [ih items]
    refine congrArg _ (funext fun x => ?_)
    exact Evaluation.run_application env _ rest (Evaluation.step_unary env items _ x)

/-- Evaluating the postorder of a tree gives what the tree denotes. -/
theorem evaluate_postorder (t : Tree α φ β υ) :
    evaluate env (t.postorder M.lexicon.script) = t.denote M env := by
  have h := evaluates M env t [] []
  rw [List.append_nil] at h
  simp only [evaluate, h]
  obtain ⟨e | v, applications⟩ := t.denote M env
  · rfl
  · simp [Traced.bind, Evaluation.run, Evaluation.result]

/-- A call with too few arguments is not refused where memory for them cannot be reserved. -/
theorem call_overflow : ∃ (M : Meaning Atom Callable BinaryOperator UnaryOperator) (f : Callable),
    f.minimum = 1000000000000000000 ∧ f.takes 1 = false ∧
    ∀ env, evaluate env ((call f [leaf (.number 1)]).postorder M.lexicon.script) =
        (.error .capacityOverflow, []) ∧
      (evaluate env ((call f [leaf (.number 1)]).postorder M.lexicon.script)).1 ≠
        .error (.wrongArguments f.name) := by
  let M : Meaning Atom Callable BinaryOperator UnaryOperator := ⟨id, id, id, id⟩
  let f : Callable := ⟨"f", 1000000000000000000, false, fun _ => .ok (.number 0)⟩
  have heval (env : String → Option Float) :
      evaluate env ((call f [leaf (.number 1)]).postorder M.lexicon.script) =
        (.error .capacityOverflow, []) := rfl
  refine ⟨M, f, rfl, rfl, fun env => ⟨heval env, ?_⟩⟩
  rw [heval]
  simp

end Tree

end Reckoner
