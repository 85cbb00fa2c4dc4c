import Mathlib.Data.List.Chain
import Reckoner.Proofs.Denotation
import Reckoner.Proofs.Grouping
import Reckoner.Proofs.Nesting
import Reckoner.Proofs.Precedence

/-! Sentences over any table of operators. A unary operator can find a stronger operator right
before it, whose last operand it begins. The conversion then writes that one too early, and what it
gives is the postorder of no tree that reads as the sentence. If this happens nowhere in a sentence,
the conversion gives the postorder of such a tree, which fails for what its nodes do and for no
other reason.
-/

set_option autoImplicit false

namespace Reckoner

namespace Tree

variable {α φ β υ : Type} (L : Lexicon α φ β υ) {o : β} {t u : Tree α φ β υ}

/-- The operator takes all of the tree for its left operand. -/
def PoppedBy (o : β) (t : Tree α φ β υ) : Prop :=
  ∀ x ∈ t.rightSpine L, (L.binary o).popsBefore x = true

instance (o : β) (t : Tree α φ β υ) : Decidable (t.PoppedBy L o) :=
  inferInstanceAs (Decidable (∀ x ∈ t.rightSpine L, (L.binary o).popsBefore x = true))

def graft (o : β) : Tree α φ β υ → Tree α φ β υ → Tree α φ β υ
  | .binary p l r, u =>
    if (binary p l r).PoppedBy L o then .binary o (.binary p l r) u
    else .binary p l (r.graft o u)
  | .unary v e, u =>
    if (unary v e).PoppedBy L o then .binary o (.unary v e) u else .unary v (e.graft o u)
  | t, u => .binary o t u

theorem inOrder_graft (o : β) (t u : Tree α φ β υ) :
    (t.graft L o u).inOrder L.script =
      t.inOrder L.script ++ L.script.binary o :: u.inOrder L.script := by
  induction t with
  | binary p l r _ ih =>
    simp only [graft]
    split
    · rfl
    · simp only [inOrder, ih, List.append_assoc, List.cons_append]
  | unary v e ih =>
    simp only [graft]
    split
    · rfl
    · simp only [inOrder, ih, List.cons_append]
  | leaf a => rfl
  | group e _ => rfl
  | call f args _ => rfl

/-- The operator comes to the left edge only where it takes the whole tree. -/
theorem leftSpine_graft {x : Operator} (hx : x ∈ (t.graft L o u).leftSpine L) :
    x ∈ t.leftSpine L ∨ x = L.binary o ∧ t.PoppedBy L o := by
  have whole (h : t.PoppedBy L o) (hx : x ∈ (binary o t u).leftSpine L) :
      x ∈ t.leftSpine L ∨ x = L.binary o ∧ t.PoppedBy L o :=
    (List.mem_cons.1 hx).symm.imp_right fun e => ⟨e, h⟩
  cases t with
  | binary p l r =>
    by_cases h : (binary p l r).PoppedBy L o
    · rw [graft, if_pos h] at hx
      exact whole h hx
    · rw [graft, if_neg h] at hx
      exact .inl hx
  | unary v e =>
    by_cases h : (unary v e).PoppedBy L o
    · rw [graft, if_pos h] at hx
      exact whole h hx
    · rw [graft, if_neg h] at hx
      exact .inl hx
  | leaf a => exact whole (List.forall_mem_nil _) hx
  | group e => exact whole (List.forall_mem_nil _) hx
  | call f args => exact whole (List.forall_mem_nil _) hx

/-- An operator on the right edge keeps its last operand when that is continued, unless it is popped
with all of it. -/
theorem stays_graft {x p : Operator} (ht : ∀ x ∈ t.leftSpine L, x.popsBefore p = false)
    (hp : t.PoppedBy L o → (L.binary o).popsBefore p = false)
    (hx : x ∈ (t.graft L o u).leftSpine L) : x.popsBefore p = false := by
  rcases leftSpine_graft L hx with hx | ⟨rfl, hpopped⟩
  · exact ht x hx
  · exact hp hpopped

theorem Ordered.graft (ht : t.Ordered L) (hu : u.Ordered L)
    (hstay : ∀ x ∈ u.leftSpine L, x.popsBefore (L.binary o) = false) :
    (t.graft L o u).Ordered L := by
  induction ht with
  | leaf a => exact .binary (.leaf a) hu (List.forall_mem_nil _) hstay
  | group he _ => exact .binary (.group he) hu (List.forall_mem_nil _) hstay
  | call hs _ => exact .binary (.call hs) hu (List.forall_mem_nil _) hstay
  | @binary p l r hl hr hpop hpstay _ ih =>
    by_cases h : (Tree.binary p l r).PoppedBy L o
    · rw [Tree.graft, if_pos h]
      exact .binary (.binary hl hr hpop hpstay) hu h hstay
    · rw [Tree.graft, if_neg h]
      refine .binary hl ih hpop fun x hx => stays_graft L hpstay (fun hr => ?_) hx
      exact Bool.eq_false_iff.2 fun hp => h (List.forall_mem_cons.2 ⟨hp, hr⟩)
  | @unary v e he hvstay ih =>
    by_cases h : (Tree.unary v e).PoppedBy L o
    · rw [Tree.graft, if_pos h]
      exact .binary (.unary he hvstay) hu h hstay
    · rw [Tree.graft, if_neg h]
      refine .unary ih fun x hx => stays_graft L hvstay (fun hr => ?_) hx
      exact Bool.eq_false_iff.2 fun hp => h (List.forall_mem_cons.2 ⟨hp, hr⟩)

end Tree

/-- The second token has the first, an operator, written before it although its last operand is
still to come. -/
def Token.cutBy : Token → Token → Bool
  | .operator o, .operator u => u.popsBefore o
  | _, _ => false

/-- No operator is written before its last operand. -/
def Uncut (ts : List Token) : Prop := ts.IsChain fun s t => s.cutBy t = false

instance (ts : List Token) : Decidable (Uncut ts) :=
  inferInstanceAs (Decidable (ts.IsChain fun s t => s.cutBy t = false))

section

variable {α φ β υ : Type} {L : Lexicon α φ β υ}

variable (L) in
def Category.Orders : Category → List Token → Prop
  | .sentence, ts => ∃ t : Tree α φ β υ, t.Ordered L ∧ t.inOrder L.script = ts
  | .signed, ts | .primary, ts =>
    ∃ t : Tree α φ β υ, (t.Ordered L ∧ ∀ x ∈ t.leftSpine L, ts.head? = some (.operator x)) ∧
      t.inOrder L.script = ts
  | .arguments, ts =>
    ∃ (t : Tree α φ β υ) (us : List (Tree α φ β υ)),
      (∀ u ∈ t :: us, u.Ordered L) ∧ Tree.arguments L.script (t :: us) = ts

theorem Uncut.stays {o : Operator} {ts : List Token} (h : Uncut (.operator o :: ts))
    {xs : List Operator} (hx : ∀ x ∈ xs, ts.head? = some (.operator x)) :
    ∀ x ∈ xs, x.popsBefore o = false := by
  intro x hm
  cases ts with
  | nil => cases hx x hm
  | cons t ts =>
    cases hx x hm
    exact (List.isChain_cons_cons.1 h).1

theorem Derives.orders {c : Category} {ts : List Token} (h : Derives L.script c ts)
    (hs : Uncut ts) : c.Orders L ts := by
  induction h with
  | one _ ih =>
    obtain ⟨t, ⟨ht, _⟩, rfl⟩ := ih hs
    exact ⟨t, ht, rfl⟩
  | more o _ _ iht ihu =>
    have hright := hs.right_of_append
    obtain ⟨t, ht, rfl⟩ := iht hs.left_of_append
    obtain ⟨u, ⟨hu, hhead⟩, rfl⟩ := ihu hright.tail
    exact ⟨t.graft L o u, ht.graft L hu (Uncut.stays hright hhead), t.inOrder_graft L o u⟩
  | plain _ ih => exact ih hs
  | unary u _ ih =>
    obtain ⟨t, ⟨ht, hhead⟩, rfl⟩ := ih hs.tail
    refine ⟨.unary u t, ⟨.unary ht (Uncut.stays hs hhead), fun x hx => ?_⟩, rfl⟩
    rw [List.mem_singleton.1 hx]
    rfl
  | leaf a => exact ⟨.leaf a, ⟨.leaf a, List.forall_mem_nil _⟩, rfl⟩
  | group _ ih =>
    obtain ⟨t, ht, rfl⟩ := ih hs.tail.left_of_append
    exact ⟨.group t, ⟨.group ht, List.forall_mem_nil _⟩, rfl⟩
  | empty f => exact ⟨.call f [], ⟨.call (List.forall_mem_nil _), List.forall_mem_nil _⟩, rfl⟩
  | call f _ ih =>
    obtain ⟨t, us, hus, rfl⟩ := ih hs.tail.tail.left_of_append
    exact ⟨.call f (t :: us), ⟨.call hus, List.forall_mem_nil _⟩, rfl⟩
  | argument _ ih =>
    obtain ⟨t, ht, rfl⟩ := ih hs
    refine ⟨t, [], List.forall_mem_singleton.2 ht, ?_⟩
    simp only [Tree.arguments, Tree.furtherArguments, List.append_nil]
  | further _ _ iht ihu =>
    obtain ⟨t, us, hus, rfl⟩ := iht hs.left_of_append
    obtain ⟨u, hu, rfl⟩ := ihu hs.right_of_append.tail
    refine ⟨t, us ++ [u], ?_, ?_⟩
    · rw [← List.cons_append]
      exact List.forall_mem_append.2 ⟨hus, List.forall_mem_singleton.2 hu⟩
    · simp only [Tree.arguments, Tree.furtherArguments_append, Tree.furtherArguments,
        List.append_nil, List.append_assoc]

/-- An uncut sentence keeps its structure. -/
theorem reversePolish_uncut {limit : Nat} {ts : List Token} (h : Derives L.script .sentence ts)
    (hn : Token.brackets.nesting ts ≤ limit) (hs : Uncut ts) :
    ∃ t : Tree α φ β υ, t.inOrder L.script = ts ∧
      reversePolish limit ts = .ok (t.postorder L.script) := by
  obtain ⟨t, ht, rfl⟩ := h.orders hs
  rw [(Token.brackets_fits L).nesting_inOrder] at hn
  exact ⟨t, rfl, t.reversePolish_of_ordered L ht hn⟩

end

/-- What can go wrong in a node of a tree, for its own reasons. -/
inductive Meaning.Raises {α φ β υ : Type} (M : Meaning α φ β υ) (env : String → Option Float) :
    Error → Prop where
  | unbound {a : α} {name : String} : M.leaf a = .var name → env name = none →
      Raises M env (.unknownVariable name)
  | notANumber (s : String) : Raises M env (.notANumber s)
  | arguments (f : φ) : Raises M env (.wrongArguments (M.function f).name)
  | overflow (f : φ) : Callable.capacity < (M.function f).minimum → Raises M env .capacityOverflow
  | function {f : φ} {args : List Value} {e : Error} : (M.function f).call args = .error e →
      Raises M env e
  | binary {o : β} {x y : Float} {e : Error} : (M.binary o).apply x y = .error e → Raises M env e
  | unary {u : υ} {x : Float} {e : Error} : (M.unary u).apply x = .error e → Raises M env e

theorem Traced.bind_error {γ δ : Type} {x : Traced γ} {f : γ → Traced δ} {e : Error}
    (h : (x.bind f).1 = .error e) : x.1 = .error e ∨ ∃ a, (f a).1 = .error e := by
  obtain ⟨e' | a, applications⟩ := x
  · cases h
    exact .inl rfl
  · exact .inr ⟨a, h⟩

theorem Traced.recorded_error {name : String} {operands : List Value} {x : Except Error Value}
    {e : Error} (h : (recorded name operands x).1 = .error e) : x = .error e := by
  cases x with
  | error e' => exact h
  | ok v => cases h

section

variable {α φ β υ : Type} (M : Meaning α φ β υ) (env : String → Option Float) {e : Error}

theorem Meaning.raises_leaf {a : α} (h : (M.leaf a).value env = .error e) : M.Raises env e := by
  cases ha : M.leaf a with
  | var name =>
    rw [ha] at h
    simp only [Atom.value] at h
    cases hx : env name with
    | none =>
      rw [hx] at h
      cases h
      exact .unbound ha hx
    | some x =>
      rw [hx] at h
      cases h
  | number x => rw [ha] at h; cases h
  | text s => rw [ha] at h; cases h
  | identifier s => rw [ha] at h; cases h

theorem Meaning.raises_function {f : φ} {vs : List Value}
    (h : (M.function f).result vs = .error e) : M.Raises env e := by
  unfold Callable.result at h
  split at h
  · next hc =>
    cases h
    exact .overflow f hc
  · split at h
    · exact .function h
    · cases h
      exact .arguments f

theorem map_number_error {x : Except Error Float} (h : x.map Value.number = .error e) :
    x = .error e := by
  cases x with
  | error e' => exact congrArg Except.error (Except.error.inj h)
  | ok y => cases h

theorem Meaning.raises_binary {o : β} {x y : Value} (h : (M.binary o).result x y = .error e) :
    M.Raises env e := by
  cases y with
  | text s =>
    cases h
    exact .notANumber s
  | number y =>
    cases x with
    | text s =>
      cases h
      exact .notANumber s
    | number x => exact .binary (map_number_error h)

theorem Meaning.raises_unary {u : υ} {x : Value} (h : (M.unary u).result x = .error e) :
    M.Raises env e := by
  cases x with
  | text s =>
    cases h
    exact .notANumber s
  | number x => exact .unary (map_number_error h)

namespace Tree

theorem raises_of_denotes {ts : List (Tree α φ β υ)}
    (ih : ∀ t ∈ ts, (t.denote M env).1 = .error e → M.Raises env e)
    (h : (denotes M env ts).1 = .error e) : M.Raises env e := by
  induction ts with
  | nil => cases h
  | cons t ts ihs =>
    obtain ⟨iht, ihts⟩ := List.forall_mem_cons.1 ih
    rcases Traced.bind_error h with h | ⟨v, h⟩
    · exact iht h
    · rcases Traced.bind_error h with h | ⟨vs, h⟩
      · exact ihs ihts h
      · cases h

theorem raises_of_denote {t : Tree α φ β υ} (h : (t.denote M env).1 = .error e) :
    M.Raises env e := by
  induction t with
  | leaf a => exact M.raises_leaf env h
  | group t ih => exact ih h
  | call f args ih =>
    rcases Traced.bind_error h with h | ⟨vs, h⟩
    · exact raises_of_denotes M env ih h
    · exact M.raises_function env (Traced.recorded_error h)
  | binary o l r hl hr =>
    rcases Traced.bind_error h with h | ⟨x, h⟩
    · exact hl h
    · rcases Traced.bind_error h with h | ⟨y, h⟩
      · exact hr h
      · exact M.raises_binary env (Traced.recorded_error h)
  | unary u t ih =>
    rcases Traced.bind_error h with h | ⟨x, h⟩
    · exact ih h
    · exact M.raises_unary env (Traced.recorded_error h)

theorem raises_of_evaluate {t : Tree α φ β υ}
    (h : (evaluate env (t.postorder M.lexicon.script)).1 = .error e) : M.Raises env e := by
  have hrun := evaluates M env t [] []
  rw [List.append_nil] at hrun
  simp only [evaluate, hrun] at h
  refine raises_of_denote M env (t := t) ?_
  generalize t.denote M env = d at h
  obtain ⟨e' | v, applications⟩ := d
  · exact h
  · cases h

end Tree

/-- An uncut sentence is converted to the postorder of a tree that reads as the sentence. What goes
wrong in its evaluation goes wrong in a node: operands are never missing, and none is left. -/
theorem sentence_kept {limit : Nat} {ts : List Token}
    (h : Derives M.lexicon.script .sentence ts) (hn : Token.brackets.nesting ts ≤ limit)
    (hs : Uncut ts) :
    ∃ t : Tree α φ β υ, t.inOrder M.lexicon.script = ts ∧
      reversePolish limit ts = .ok (t.postorder M.lexicon.script) ∧
      ∀ env e, (evaluate env (t.postorder M.lexicon.script)).1 = .error e → M.Raises env e := by
  obtain ⟨t, ht, hp⟩ := reversePolish_uncut h hn hs
  exact ⟨t, ht, hp, fun env e he => t.raises_of_evaluate M env he⟩

end

end Reckoner
