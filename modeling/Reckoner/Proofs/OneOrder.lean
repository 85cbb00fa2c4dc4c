import Reckoner.Proofs.Doubles
import Reckoner.Proofs.Extension
import Reckoner.Proofs.RuleOrder

set_option autoImplicit false

namespace Reckoner.Comparison

/-- Two numbers that are not NaN, or two texts. -/
def Comparable : Value → Value → Prop
  | .number x, .number y => x.isNaN = false ∧ y.isNaN = false
  | .text _, .text _ => True
  | _, _ => False

def comparing : Callable := callable "compare" 2 true compare

section

variable (env : String → Option Float) (items : List Operand) (a b : Value)

/-- Each operator leaves its number, the function the same for each spelling of it, and without a
condition the sign. -/
structure Answered (x : Condition → Float) (sign : Float) : Prop where
  operator (c : Condition) :
    Evaluation.step env (.value b :: .value a :: items) (.operator c.operator) =
      .ok (.value (.number (x c)) :: items, some ⟨c.symbol, [a, b], .number (x c)⟩)
  spelled (c : Condition) (s : String) (hs : s ∈ c.spellings) :
    Evaluation.step env (.value (.text s) :: .value b :: .value a :: .marker :: items)
        (.function comparing) =
      .ok (.value (.number (x c)) :: items,
        some ⟨"compare", [a, b, .text s], .number (x c)⟩)
  signed :
    Evaluation.step env (.value b :: .value a :: .marker :: items) (.function comparing) =
      .ok (.value (.number sign) :: items, some ⟨"compare", [a, b], .number sign⟩)

structure Refused : Prop where
  operator (c : Condition) :
    Evaluation.step env (.value b :: .value a :: items) (.operator c.operator) =
      .error (.wrongArguments c.symbol)
  spelled (c : Condition) (s : String) (hs : s ∈ c.spellings) :
    Evaluation.step env (.value (.text s) :: .value b :: .value a :: .marker :: items)
        (.function comparing) = .error (.wrongArguments "compare")
  signed :
    Evaluation.step env (.value b :: .value a :: .marker :: items) (.function comparing) =
      .error (.wrongArguments "compare")

end

/-- The numbers of the six conditions on two values, and the sign, beside those of the same values
the other way round. -/
structure OneOrder (a b : Value) (x y : Condition → Float) (sign reversed : Float) : Prop where
  exactlyOne : (x .less, x .equal, x .greater) ∈ [(1, 0, 0), (0, 1, 0), (0, 0, 1)]
  less_iff : x .less = 1 ↔ order? a b = some .lt
  equal_iff : x .equal = 1 ↔ order? a b = some .eq
  greater_iff : x .greater = 1 ↔ order? a b = some .gt
  lessOrEqual : x .lessOrEqual = 1 - x .greater
  greaterOrEqual : x .greaterOrEqual = 1 - x .less
  notEqual : x .notEqual = 1 - x .equal
  less_swap : x .less = y .greater
  lessOrEqual_swap : x .lessOrEqual = y .greaterOrEqual
  sign_less : x .less = 1 → sign = -1
  sign_equal : x .equal = 1 → sign = 0
  sign_greater : x .greater = 1 → sign = 1
  -- Equal as numbers, since the negation of zero is negative zero.
  sign_swap : (reversed == -sign) = true

def outcome (o : Ordering) (c : Condition) : Float := if c.holds o then 1 else 0

section

variable {a b : Value} {c : Condition} {s : String} {r : Registry}

theorem orderNumbers?_eq (x y : Float) :
    orderNumbers? x y = x.toModel.unpack.compare y.toModel.unpack := by
  have hswap := Number.compare_swap x.toModel.unpack y.toModel.unpack
  simp only [orderNumbers?, Number.lt_iff_compare, Number.beq_iff_compare, hswap]
  rcases x.toModel.unpack.compare y.toModel.unpack with _ | _ | _ | _ <;> rfl

theorem order?_swap (a b : Value) : order? b a = (order? a b).map Ordering.swap := by
  cases a with
  | number x =>
    cases b with
    | number y =>
      simp only [order?, orderNumbers?_eq]
      exact Number.compare_swap _ _
    | text t => rfl
  | text s =>
    cases b with
    | number y => rfl
    | text t =>
      have hswap : Ord.compare t s = (Ord.compare s t).swap := Std.OrientedCmp.eq_swap
      exact congrArg some hswap

theorem order?_eq_none_iff : order? a b = none ↔ ¬ Comparable a b := by
  cases a with
  | number x =>
    cases b with
    | number y =>
      have hx : x.isNaN = x.toModel.unpack.isNaN := rfl
      have hy : y.isNaN = y.toModel.unpack.isNaN := rfl
      simp only [order?, orderNumbers?_eq, Number.compare_eq_none_iff, Comparable, hx, hy,
        Classical.not_and_iff_not_or_not, Bool.not_eq_false]
    | text t => simp [order?, Comparable]
  | text s =>
    cases b with
    | number y => simp [order?, Comparable]
    | text t => simp [order?, Comparable]

theorem outcome_iff (o : Ordering) (c : Condition) : outcome o c = 1 ↔ c.holds o = true := by
  have hne : ¬ (0 : Float) = 1 := by decide +kernel
  unfold outcome
  split <;> simp_all

theorem oneOrder_of_order? {o : Ordering} (ho : order? a b = some o) :
    OneOrder a b (outcome o) (outcome o.swap) (sign o) (sign o.swap) := by
  constructor
  case exactlyOne => cases o <;> simp [outcome, Condition.holds]
  case less_iff | equal_iff | greater_iff =>
    rw [outcome_iff, ho]
    cases o <;> simp [Condition.holds]
  case sign_less | sign_equal | sign_greater =>
    rw [outcome_iff]
    cases o <;> simp [Condition.holds, sign]
  all_goals cases o <;> decide +kernel

theorem ofSpelling?_eq (h : s ∈ c.spellings) : Condition.ofSpelling? s = some c := by
  cases c <;> simp only [Condition.spellings, List.mem_cons, List.not_mem_nil, or_false] at h <;>
    rcases h with rfl | rfl | rfl <;> rfl

section

variable (env : String → Option Float) (items : List Operand) (a b : Value)

theorem step_operator (c : Condition) :
    Evaluation.step env (.value b :: .value a :: items) (.operator c.operator) =
      (check c.symbol c a b).map fun v => (.value v :: items, some ⟨c.symbol, [a, b], v⟩) := by
  have hexecute : c.operator.execute ⟨.value b :: .value a :: items, []⟩ =
      (check c.symbol c a b, ⟨items, [a, b]⟩) := by
    simp only [Condition.operator, bind, ExceptT.bind, ExceptT.mk, ExceptT.bindCont,
      StateT.bind, popValue_value]
    cases check c.symbol c a b <;> rfl
  rw [Evaluation.step, Evaluation.applyOperator, hexecute]
  cases check c.symbol c a b <;> rfl

theorem step_spelled (hs : s ∈ c.spellings) :
    Evaluation.step env (.value (.text s) :: .value b :: .value a :: .marker :: items)
        (.function comparing) =
      (check "compare" c a b).map fun v =>
        (.value v :: items, some ⟨"compare", [a, b, .text s], v⟩) := by
  have hresult : comparing.result [a, b, .text s] = check "compare" c a b := by
    have hcall : comparing.result [a, b, .text s] = compare [a, b, .text s] := rfl
    rw [hcall, compare, ofSpelling?_eq hs]
  rw [← hresult]
  exact Evaluation.step_function env items comparing [a, b, .text s]

theorem step_signed :
    Evaluation.step env (.value b :: .value a :: .marker :: items) (.function comparing) =
      (compare [a, b]).map fun v => (.value v :: items, some ⟨"compare", [a, b], v⟩) :=
  Evaluation.step_function env items comparing [a, b]

variable {a b}

theorem answered_of_order? {o : Ordering} (ho : order? a b = some o) :
    Answered env items a b (outcome o) (sign o) := by
  have hcheck (owner : String) (c : Condition) :
      check owner c a b = .ok (.number (outcome o c)) := by
    simp [check, ho, truth, outcome]
  constructor
  · intro c
    simp [step_operator, hcheck, Except.map]
  · intro c s hs
    simp [step_spelled env items a b hs, hcheck, Except.map]
  · simp [step_signed, compare, ho, Except.map]

theorem refused_of_order? (ho : order? a b = none) : Refused env items a b := by
  have hcheck (owner : String) (c : Condition) :
      check owner c a b = .error (.wrongArguments owner) := by
    simp [check, ho]
  constructor
  · intro c
    simp [step_operator, hcheck, Except.map]
  · intro c s hs
    simp [step_spelled env items a b hs, hcheck, Except.map]
  · simp [step_signed, compare, ho, Except.map]

end

theorem mem_all (c : Condition) : c ∈ Condition.all := by cases c <;> decide

theorem name_condition {c' : Condition} (h : c'.name = c.name) : c' = c := by
  cases c' <;> cases c <;> simp [Condition.name] at h <;> rfl

theorem rule?_registrations {g : Registration} {rule : Rule} (hg : g ∈ registrations)
    (hrule : g.rule? = some rule) : ∃ c, rule = conditionRule c := by
  rcases List.mem_append.1 hg with hg | hg
  · obtain ⟨c, -, rfl⟩ := List.mem_map.1 hg
    cases hrule
    exact ⟨c, rfl⟩
  · simp only [List.mem_cons, List.not_mem_nil, or_false] at hg
    rcases hg with rfl | rfl <;> cases hrule

theorem rules_conditions (r : Registry) (c : Condition) :
    conditionRule c ∈ (r.insertAll registrations).rules ∧
      ∀ rule ∈ (r.insertAll registrations).rules, rule.name = c.name → rule = conditionRule c := by
  have hrules := Registry.rules_insertAll (r := r) check_registrations
  refine ⟨(hrules _).2 (.inl ?_), fun rule hrule hname => ?_⟩
  · cases c <;>
      simp [registrations, Condition.all, newest_cons, not_newest_nil, Registration.rule?,
        conditionRule, Condition.name]
  · obtain ⟨before, g, after, hgs, hg, -⟩ | ⟨-, hnone⟩ := (hrules rule).1 hrule
    · obtain ⟨c', rfl⟩ := rule?_registrations (hgs ▸ List.mem_append_right _ List.mem_cons_self) hg
      rw [name_condition hname]
    · have hg : .operator c.name (.literal c.symbol) c.operator ∈ registrations :=
        List.mem_append_left _ (List.mem_map_of_mem (mem_all c))
      exact absurd hname.symm (hnone _ hg _ rfl)

theorem function?_comparing (r : Registry) :
    (r.insertAll registrations).function? "compare" = some comparing := by
  refine (Registry.function?_insertAll check_registrations comparing).2 (.inl ⟨rfl, ?_⟩)
  simp only [registrations, Condition.all, List.map_cons, List.map_nil, List.cons_append,
    List.nil_append, newest_cons, not_newest_nil, Registration.callable?, reduceCtorEq,
    Option.some.injEq, false_or, false_and, or_false]
  exact .inl ⟨rfl, by decide⟩

theorem registry_loadExtra {k : Calculator} (h : k.loadExtra.answer = .ok ()) :
    k.loadExtra.calculator.registry = k.registry.insertAll registrations := by
  simp only [Calculator.loadExtra, Registry.registerAll_comparisons] at h ⊢
  cases hf : k.registry.frozen with
  | true =>
    rw [hf] at h
    cases h
  | false => rfl

/-- With the comparisons, an operator and the function agree on each condition, in each spelling.
Both refuse two values that have no order. They give one for true and zero for false otherwise, and
all conditions are those of one order. -/
theorem comparisons_agree {k : Calculator} (h : k.loadExtra.answer = .ok ()) :
    (∀ c : Condition, conditionRule c ∈ k.loadExtra.calculator.registry.rules ∧
      ∀ rule ∈ k.loadExtra.calculator.registry.rules, rule.name = c.name →
        rule = conditionRule c) ∧
    k.loadExtra.calculator.registry.function? "compare" = some comparing ∧
    ∀ (env : String → Option Float) (items : List Operand) (a b : Value),
      (¬ Comparable a b → Refused env items a b) ∧
      (Comparable a b → ∃ x y sign reversed, Answered env items a b x sign ∧
        Answered env items b a y reversed ∧ OneOrder a b x y sign reversed) := by
  rw [registry_loadExtra h]
  refine ⟨rules_conditions k.registry, function?_comparing k.registry,
    fun env items a b => ⟨fun hn => ?_, fun hc => ?_⟩⟩
  · exact refused_of_order? env items (order?_eq_none_iff.2 hn)
  · obtain ⟨o, ho⟩ : ∃ o, order? a b = some o :=
      Option.ne_none_iff_exists'.1 fun hn => order?_eq_none_iff.1 hn hc
    have hswap : order? b a = some o.swap := by
      rw [order?_swap a b, ho]
      rfl
    exact ⟨outcome o, outcome o.swap, sign o, sign o.swap, answered_of_order? env items ho,
      answered_of_order? env items hswap, oneOrder_of_order? ho⟩

theorem comparisons_agree_numbers :
    ∃ k : Calculator, k = .build {} (.default {}) ∧ k.loadExtra.answer = .ok () ∧
      Comparable (.number 1) (.number 2) ∧ ¬ Comparable (.number 1) (.text "s") ∧
      ∀ env items,
        Evaluation.step env (.value (.number 2) :: .value (.number 1) :: items)
            (.operator Condition.less.operator) =
          .ok (.value (.number 1) :: items, some ⟨"<", [.number 1, .number 2], .number 1⟩) ∧
        Evaluation.step env
            (.value (.text "lt") :: .value (.number 2) :: .value (.number 1) :: .marker :: items)
            (.function comparing) =
          .ok (.value (.number 1) :: items,
            some ⟨"compare", [.number 1, .number 2, .text "lt"], .number 1⟩) ∧
        Evaluation.step env (.value (.number 2) :: .value (.number 1) :: items)
            (.operator Condition.greaterOrEqual.operator) =
          .ok (.value (.number 0) :: items, some ⟨">=", [.number 1, .number 2], .number 0⟩) ∧
        Evaluation.step env (.value (.text "s") :: .value (.number 1) :: items)
            (.operator Condition.less.operator) = .error (.wrongArguments "<") := by
  let k : Calculator := .build {} (.default {})
  have hfrozen : k.registry.frozen = false := Registry.insertAll_frozen _ _
  have hload : k.loadExtra.answer = .ok () := by
    simp only [Calculator.loadExtra, Registry.registerAll_comparisons, hfrozen, Bool.false_eq_true,
      if_false]
  have hless : order? (.number 1) (.number 2) = some .lt := by decide +kernel
  have hcomparable : Comparable (.number 1) (.number 2) := ⟨by decide +kernel, by decide +kernel⟩
  have hkinds : ¬ Comparable (.number 1) (.text "s") := id
  obtain ⟨-, -, hagree⟩ := comparisons_agree hload
  refine ⟨k, rfl, hload, hcomparable, hkinds, fun env items => ?_⟩
  obtain ⟨x, y, sign, reversed, hx, -, ho⟩ := (hagree env items _ _).2 hcomparable
  have hone : x .less = 1 := ho.less_iff.2 hless
  have hzero : x .greaterOrEqual = 0 := by
    rw [ho.greaterOrEqual, hone]
    decide +kernel
  have hrefused := (hagree env items _ _).1 hkinds
  refine ⟨?_, ?_, ?_, hrefused.operator .less⟩
  · rw [hx.operator, hone]
    rfl
  · rw [hx.spelled .less "lt" (by decide), hone]
  · rw [hx.operator, hzero]
    rfl

end

end Reckoner.Comparison
