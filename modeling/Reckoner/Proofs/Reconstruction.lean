import Reckoner.Proofs.Sequences
import Reckoner.ReversePolish

/-! What evaluates to a value is the postorder of a tree. The trees of the values on the operand
stack are put together along the evaluation, and their postorders are what was read.
-/

set_option autoImplicit false

namespace Reckoner

theorem popCount_some {n : Nat} {args args' : List Value} {items below : List Operand}
    (h : popCount n args items = some (args', below)) :
    ∃ vs : List Value, items = vs.map .value ++ below := by
  induction n generalizing args items with
  | zero =>
    cases h
    exact ⟨[], rfl⟩
  | succ n ih =>
    cases items with
    | nil => cases h
    | cons item items =>
      cases item with
      | marker => cases h
      | inert s => cases h
      | value v =>
        obtain ⟨vs, hvs⟩ := ih h
        exact ⟨v :: vs, by rw [hvs]; rfl⟩

theorem popToMarker_some {args args' : List Value} {items below : List Operand}
    (h : popToMarker args items = some (args', below)) :
    ∃ vs : List Value, items = vs.map .value ++ .marker :: below := by
  induction items generalizing args with
  | nil => cases h
  | cons item items ih =>
    cases item with
    | marker =>
      cases h
      exact ⟨[], rfl⟩
    | inert s => cases h
    | value v =>
      obtain ⟨vs, hvs⟩ := ih h
      exact ⟨v :: vs, by rw [hvs]; rfl⟩

theorem Callable.arguments?_some {f : Callable} {items below : List Operand} {args : List Value}
    (h : f.arguments? items = some (args, below)) :
    ∃ vs : List Value, items = vs.map .value ++ .marker :: below := by
  simp only [arguments?] at h
  cases hp : popCount f.minimum [] items with
  | none => rw [hp] at h; cases h
  | some popped =>
    obtain ⟨first, rest⟩ := popped
    obtain ⟨vs, rfl⟩ := popCount_some hp
    simp only [hp] at h
    cases hv : f.variadic with
    | true =>
      rw [hv, if_pos rfl] at h
      obtain ⟨ws, rfl⟩ := popToMarker_some h
      exact ⟨vs ++ ws, by rw [List.map_append, List.append_assoc]⟩
    | false =>
      rw [hv, if_neg Bool.false_ne_true] at h
      split at h
      · cases h
        exact ⟨vs, rfl⟩
      · cases h

variable {α φ β υ σ : Type}

/-- What lies on the operand stack: a value for each tree, and a marker where there is none. -/
inductive Stands : List (Option (Tree α φ β υ)) → List Operand → Prop where
  | nil : Stands [] []
  | value (t : Tree α φ β υ) (v : Value) {ps : List (Option (Tree α φ β υ))}
      {items : List Operand} : Stands ps items → Stands (some t :: ps) (.value v :: items)
  | marker {ps : List (Option (Tree α φ β υ))} {items : List Operand} : Stands ps items →
      Stands (none :: ps) (.marker :: items)

def written (S : Script α φ β υ σ) : List (Option (Tree α φ β υ)) → List σ
  | [] => []
  | some t :: ps => written S ps ++ t.postorder S
  | none :: ps => written S ps ++ [S.opening]

theorem Stands.values {ps : List (Option (Tree α φ β υ))} {vs : List Value}
    {items : List Operand} (h : Stands ps (vs.map .value ++ .marker :: items)) :
    ∃ (ts : List (Tree α φ β υ)) (qs : List (Option (Tree α φ β υ))),
      ps = ts.map some ++ none :: qs ∧ Stands qs items := by
  induction vs generalizing ps with
  | nil =>
    cases h with
    | @marker qs _ h => exact ⟨[], qs, rfl, h⟩
  | cons v vs ih =>
    cases h with
    | value t _ h =>
      obtain ⟨ts, qs, rfl, hq⟩ := ih h
      exact ⟨t :: ts, qs, rfl, hq⟩

theorem postorders_append (S : Script α φ β υ σ) (ts us : List (Tree α φ β υ)) :
    Tree.postorders S (ts ++ us) = Tree.postorders S ts ++ Tree.postorders S us := by
  induction ts with
  | nil => rfl
  | cons t ts ih => simp only [List.cons_append, Tree.postorders, ih, List.append_assoc]

theorem written_values (S : Script α φ β υ σ) (ts : List (Tree α φ β υ))
    (ps : List (Option (Tree α φ β υ))) :
    written S (ts.map some ++ ps) = written S ps ++ Tree.postorders S ts.reverse := by
  induction ts with
  | nil => exact (List.append_nil _).symm
  | cons t ts ih =>
    simp only [List.map_cons, List.cons_append, written, ih, List.reverse_cons,
      postorders_append, Tree.postorders, List.append_nil, List.append_assoc]

namespace Evaluation

variable {M : Meaning α φ β υ} {env : String → Option Float}

theorem binary_operands {o : BinaryOperator} {items items' : List Operand}
    {application : Option Application}
    (h : step env items (.operator o.operator) = .ok (items', application)) :
    ∃ x y v below, items = .value y :: .value x :: below ∧ items' = .value v :: below := by
  rcases items with _ | ⟨y | _ | _, _ | ⟨x | _ | _, below⟩⟩
  case cons.value.cons.value =>
    rw [step_binary] at h
    cases hv : o.result x y with
    | error e => rw [hv] at h; cases h
    | ok v =>
      rw [hv] at h
      cases h
      exact ⟨x, y, v, below, rfl, rfl⟩
  case cons.value.nil | cons.value.cons.marker | cons.value.cons.inert => cases y <;> cases h
  all_goals cases h

theorem unary_operand {o : UnaryOperator} {items items' : List Operand}
    {application : Option Application}
    (h : step env items (.operator o.operator) = .ok (items', application)) :
    ∃ x v below, items = .value x :: below ∧ items' = .value v :: below := by
  rcases items with _ | ⟨x | _ | _, below⟩
  · cases h
  · rw [step_unary] at h
    cases hv : o.result x with
    | error e => rw [hv] at h; cases h
    | ok v =>
      rw [hv] at h
      cases h
      exact ⟨x, v, below, rfl, rfl⟩
  · cases h
  · cases h

theorem function_operands {f : Callable} {items items' : List Operand}
    {application : Option Application}
    (h : step env items (.function f) = .ok (items', application)) :
    ∃ (vs : List Value) (v : Value) (below : List Operand),
      items = vs.map .value ++ .marker :: below ∧ items' = .value v :: below := by
  simp only [step, applyFunction] at h
  cases hc : f.collect items with
  | error e => rw [hc] at h; cases h
  | ok collected =>
    obtain ⟨args, below⟩ := collected
    obtain ⟨vs, rfl⟩ := Callable.arguments?_some (Callable.collect_ok_iff.1 hc).2
    simp only [hc] at h
    cases hv : f.call args with
    | error e => rw [hv] at h; cases h
    | ok v =>
      rw [hv] at h
      cases h
      exact ⟨vs, v, below, rfl, rfl⟩

theorem atom_operand {a : Atom} {items items' : List Operand} {application : Option Application}
    (h : step env items a.token = .ok (items', application)) :
    ∃ v, items' = .value v :: items := by
  cases a with
  | number x => cases h; exact ⟨_, rfl⟩
  | text s => cases h; exact ⟨_, rfl⟩
  | identifier s => cases h; exact ⟨_, rfl⟩
  | var name =>
    simp only [Atom.token, step] at h
    cases hx : env name with
    | none => rw [hx] at h; cases h
    | some x => rw [hx] at h; cases h; exact ⟨_, rfl⟩

/-- A step puts the trees of its operands together. -/
theorem step_written {t : Token} (ht : M.lexicon.script.Symbol t) {items items' : List Operand}
    {application : Option Application} (h : step env items t = .ok (items', application))
    {ps : List (Option (Tree α φ β υ))} (hp : Stands ps items) :
    ∃ qs : List (Option (Tree α φ β υ)), Stands qs items' ∧
      written M.lexicon.script qs = written M.lexicon.script ps ++ [t] := by
  cases ht with
  | leaf a =>
    obtain ⟨v, rfl⟩ := atom_operand h
    exact ⟨some (.leaf a) :: ps, .value _ v hp, rfl⟩
  | function f =>
    obtain ⟨vs, v, below, rfl, rfl⟩ := function_operands h
    obtain ⟨ts, qs, rfl, hq⟩ := hp.values
    refine ⟨some (.call f ts.reverse) :: qs, .value _ v hq, ?_⟩
    simp only [written, written_values, Tree.postorder, List.append_assoc, List.cons_append,
      List.nil_append]
  | binary o =>
    obtain ⟨x, y, v, below, rfl, rfl⟩ := binary_operands h
    cases hp with
    | value r _ hp =>
      cases hp with
      | @value l _ qs _ hp =>
        refine ⟨some (.binary o l r) :: qs, .value _ v hp, ?_⟩
        simp only [written, Tree.postorder, List.append_assoc]
  | unary u =>
    obtain ⟨x, v, below, rfl, rfl⟩ := unary_operand h
    cases hp with
    | @value e _ qs _ hp =>
      refine ⟨some (.unary u e) :: qs, .value _ v hp, ?_⟩
      simp only [written, Tree.postorder, List.append_assoc]
  | opening =>
    cases h
    exact ⟨none :: ps, .marker hp, rfl⟩
  | closing => cases h
  | comma => cases h

theorem run_written {ts : List Token} (ht : ∀ t ∈ ts, M.lexicon.script.Symbol t)
    {items items' : List Operand} (h : (run env items ts).1 = .ok items')
    {ps : List (Option (Tree α φ β υ))} (hp : Stands ps items) :
    ∃ qs : List (Option (Tree α φ β υ)), Stands qs items' ∧
      written M.lexicon.script qs = written M.lexicon.script ps ++ ts := by
  induction ts generalizing items ps with
  | nil =>
    cases h
    exact ⟨ps, hp, (List.append_nil _).symm⟩
  | cons t ts ih =>
    obtain ⟨htt, hts⟩ := List.forall_mem_cons.1 ht
    obtain ⟨next, application, hs, hrest⟩ := run_cons_ok h
    obtain ⟨qs, hq, hw⟩ := step_written htt hs hp
    obtain ⟨rs, hr, hw'⟩ := ih hts hrest hq
    exact ⟨rs, hr, by rw [hw', hw, List.append_assoc, List.singleton_append]⟩

end Evaluation

/-- What evaluates to a value is the postorder of a tree. -/
theorem exists_postorder {M : Meaning α φ β υ} {env : String → Option Float} {ts : List Token}
    (ht : ∀ t ∈ ts, M.lexicon.script.Symbol t) {v : Value} (h : (evaluate env ts).1 = .ok v) :
    ∃ t : Tree α φ β υ, ts = t.postorder M.lexicon.script := by
  obtain ⟨qs, hq, hw⟩ := Evaluation.run_written ht (evaluate_ok h) .nil
  cases hq with
  | value t _ hq =>
    cases hq
    exact ⟨t, hw.symm⟩

end Reckoner
