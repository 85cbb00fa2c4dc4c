import Reckoner.Proofs.Completion
import Reckoner.Proofs.Structure

set_option autoImplicit false

namespace Reckoner

variable {α φ β υ : Type} (L : Lexicon α φ β υ)

namespace Tree

theorem postorder_head (t : Tree α φ β υ) :
    ∃ x xs, t.postorder L.script = x :: xs ∧ x.isOperator = false := by
  induction t with
  | leaf a =>
    refine ⟨_, [], rfl, ?_⟩
    rw [L.script_leaf]
    cases L.leaf a <;> rfl
  | group e ih => exact ih
  | call f args _ => exact ⟨_, _, rfl, rfl⟩
  | binary o l r hl _ =>
    obtain ⟨x, xs, h, hx⟩ := hl
    exact ⟨x, _, congrArg (· ++ _) h, hx⟩
  | unary u e ih =>
    obtain ⟨x, xs, h, hx⟩ := ih
    exact ⟨x, _, congrArg (· ++ _) h, hx⟩

variable {L}

theorem postorder_ne_operator {t : Tree α φ β υ} {o : Operator} {ts : List Token} :
    t.postorder L.script ≠ .operator o :: ts := by
  intro h
  obtain ⟨x, xs, hx, hop⟩ := t.postorder_head L
  rw [hx] at h
  cases h
  cases hop

theorem postorder_leaf {t : Tree α φ β υ} {a : α} (h : t.inOrder L.script = [L.script.leaf a]) :
    t.postorder L.script = [L.script.leaf a] := by
  have hlength := congrArg List.length h
  cases t with
  | leaf b => exact h
  | group e => simp [inOrder] at hlength
  | call f args => simp [inOrder] at hlength
  | binary o l r =>
    obtain ⟨ts, hts⟩ := l.inOrder_last L
    simp [inOrder, hts] at hlength
    omega
  | unary u e =>
    obtain ⟨ts, hts⟩ := e.inOrder_last L
    simp [inOrder, hts] at hlength

/-- A tree that is written as an operand and two operators before another operand is an application
of the first operator to the first operand. -/
theorem binary_of_inOrder {t : Tree α φ β υ} {a b : α} {o u : Operator}
    (h : t.inOrder L.script = [L.script.leaf a, .operator o, .operator u, L.script.leaf b]) :
    ∃ p l r, t = .binary p l r ∧ l.inOrder L.script = [L.script.leaf a] := by
  have hatom : (L.script.leaf a).closes = true := (L.leaf a).closes_token
  cases t with
  | leaf c => cases (List.cons.inj h).2
  | group e =>
    rw [← (List.cons.inj h).1] at hatom
    cases hatom
  | call f args =>
    rw [← (List.cons.inj h).1] at hatom
    cases hatom
  | unary v e =>
    rw [← (List.cons.inj h).1] at hatom
    cases hatom
  | binary p l r =>
    -- The left operand ends where an operand can, which is only after the first token.
    obtain ⟨ts, hts⟩ := l.inOrder_last L
    have hlast := l.closes_lastToken L
    rw [inOrder, hts, List.append_assoc] at h
    rcases ts with _ | ⟨x, _ | ⟨y, _ | ⟨z, ts⟩⟩⟩
    · exact ⟨p, l, r, rfl, hts.trans (congrArg (fun t => [t]) (List.cons.inj h).1)⟩
    · have ho := (List.cons.inj (List.cons.inj h).2).1
      rw [ho] at hlast
      cases hlast
    · have hu := (List.cons.inj (List.cons.inj (List.cons.inj h).2).2).1
      rw [hu] at hlast
      cases hlast
    · have hlength := congrArg List.length h
      simp at hlength
      omega

end Tree

section

variable {L} {a b : α} {o : β} {u v : υ}

theorem reversePolish_cut_binary (h : (L.unary u).popsBefore (L.binary o) = true) (limit : Nat) :
    reversePolish limit [L.script.leaf a, L.script.binary o, L.script.unary u, L.script.leaf b] =
      .ok [L.script.leaf a, L.script.binary o, L.script.leaf b, L.script.unary u] := by
  simp only [reversePolish, Conversion.run, step_leaf]
  simp [Conversion.step, Conversion.operator, Conversion.operand, release, h, finish]

theorem reversePolish_cut_unary (h : (L.unary u).popsBefore (L.unary v) = true) (limit : Nat) :
    reversePolish limit [L.script.unary v, L.script.unary u, L.script.leaf a] =
      .ok [L.script.unary v, L.script.leaf a, L.script.unary u] := by
  simp only [reversePolish, Conversion.run, step_leaf]
  simp [Conversion.step, Conversion.operator, Conversion.operand, release, h, finish]

theorem misread_binary (h : (L.unary u).popsBefore (L.binary o) = true) (limit : Nat)
    {t : Tree α φ β υ} (ht : t.inOrder L.script =
      [L.script.leaf a, L.script.binary o, L.script.unary u, L.script.leaf b]) :
    reversePolish limit (t.inOrder L.script) ≠ .ok (t.postorder L.script) := by
  rw [ht, reversePolish_cut_binary h]
  obtain ⟨p, l, r, rfl, hl⟩ := Tree.binary_of_inOrder ht
  obtain ⟨x, xs, hr, hx⟩ := r.postorder_head L
  intro he
  have hpost := Except.ok.inj he
  rw [Tree.postorder, Tree.postorder_leaf hl, hr] at hpost
  rw [← (List.cons.inj (List.cons.inj hpost).2).1] at hx
  cases hx

theorem misread_unary (h : (L.unary u).popsBefore (L.unary v) = true) (limit : Nat)
    {t : Tree α φ β υ}
    (ht : t.inOrder L.script = [L.script.unary v, L.script.unary u, L.script.leaf a]) :
    reversePolish limit (t.inOrder L.script) ≠ .ok (t.postorder L.script) := by
  rw [ht, reversePolish_cut_unary h]
  exact fun he => Tree.postorder_ne_operator (Except.ok.inj he).symm

end

namespace Lexicon

/-- No unary operator pops an operator that stands right before it. -/
structure Patient : Prop where
  binary : ∀ u o, (L.unary u).popsBefore (L.binary o) = false
  unary : ∀ u v, (L.unary u).popsBefore (L.unary v) = false

def KeepsSentences : Prop :=
  ∀ (limit : Nat) (ts : List Token), Derives L.script .sentence ts →
    Token.brackets.nesting ts ≤ limit →
    ∃ t : Tree α φ β υ, t.inOrder L.script = ts ∧
      reversePolish limit ts = .ok (t.postorder L.script)

end Lexicon

section

variable {L}

theorem Uncut.cons {s : Token} {ts : List Token} (h : ∀ t ∈ ts.head?, s.cutBy t = false)
    (hs : Uncut ts) : Uncut (s :: ts) := List.isChain_cons.2 ⟨h, hs⟩

theorem Uncut.other {s : Token} {ts : List Token} (h : s.isOperator = false) (hs : Uncut ts) :
    Uncut (s :: ts) := by
  refine Uncut.cons (fun t _ => ?_) hs
  cases s with
  | operator o => cases h
  | _ => rfl

theorem Uncut.operator {o : Operator} {ts : List Token} (hs : Uncut ts)
    (hnext : ∀ x, ts.head? = some (.operator x) → ∃ u, x = L.unary u)
    (ho : ∀ u, (L.unary u).popsBefore o = false) : Uncut (.operator o :: ts) := by
  refine Uncut.cons (fun t ht => ?_) hs
  cases t with
  | operator x =>
    obtain ⟨u, rfl⟩ := hnext x ht
    exact ho u
  | _ => rfl

theorem uncut_of_inPlace (hL : L.Patient) {p : Place} {ts : List Token}
    (h : InPlace L.script p ts) :
    Uncut ts ∧ (p = .due → ∀ x, ts.head? = some (.operator x) → ∃ u, x = L.unary u) := by
  induction h with
  | leaf a _ ih =>
    have ha : (L.script.leaf a).isOperator = false := by
      rw [L.script_leaf]
      cases L.leaf a <;> rfl
    refine ⟨ih.1.other ha, fun _ x hx => ?_⟩
    rw [Option.some.inj hx] at ha
    cases ha
  | unary u _ ih =>
    refine ⟨ih.1.operator (ih.2 rfl) fun v => hL.unary v u, fun _ x hx => ⟨u, ?_⟩⟩
    cases hx
    rfl
  | group _ ih => exact ⟨ih.1.other rfl, nofun⟩
  | empty f _ ih => exact ⟨((ih.1.other rfl).other rfl).other rfl, nofun⟩
  | call f _ ih => exact ⟨(ih.1.other rfl).other rfl, nofun⟩
  | binary o _ ih => exact ⟨ih.1.operator (ih.2 rfl) fun u => hL.binary u o, nofun⟩
  | closing _ ih => exact ⟨ih.1.other rfl, nofun⟩
  | comma _ ih => exact ⟨ih.1.other rfl, nofun⟩
  | last => exact ⟨.nil, nofun⟩

/-- The tables that keep all sentences are those in which no unary operator pops an operator right
before it. -/
theorem keepsSentences_iff (a : α) : L.KeepsSentences ↔ L.Patient := by
  constructor
  · intro h
    constructor
    · intro u o
      refine Bool.eq_false_iff.2 fun hp => ?_
      have hd : Derives L.script .sentence
          [L.script.leaf a, L.script.binary o, L.script.unary u, L.script.leaf a] :=
        .more o (.one (.plain (.leaf a))) (.unary u (.plain (.leaf a)))
      obtain ⟨t, ht, hr⟩ := h _ _ hd (Nat.le_refl _)
      rw [← ht] at hr
      exact misread_binary hp _ ht hr
    · intro u v
      refine Bool.eq_false_iff.2 fun hp => ?_
      have hd : Derives L.script .sentence
          [L.script.unary v, L.script.unary u, L.script.leaf a] :=
        .one (.unary v (.unary u (.plain (.leaf a))))
      obtain ⟨t, ht, hr⟩ := h _ _ hd (Nat.le_refl _)
      rw [← ht] at hr
      exact misread_unary hp _ ht hr
  · intro hL limit ts h hn
    have hplace := h.inPlace .last
    rw [List.append_nil] at hplace
    exact reversePolish_uncut h hn (uncut_of_inPlace hL hplace).1

end

/-- An uncut sentence is converted to the postorder of a tree that reads so, which fails for what
its nodes do. All sentences are kept in this way by those tables, and no others, in which no unary
operator pops an operator right before it. -/
theorem Meaning.keeps_structure (M : Meaning α φ β υ) (a : α) :
    (∀ (limit : Nat) (ts : List Token), Derives M.lexicon.script .sentence ts →
      Token.brackets.nesting ts ≤ limit → Uncut ts →
      ∃ t : Tree α φ β υ, t.inOrder M.lexicon.script = ts ∧
        reversePolish limit ts = .ok (t.postorder M.lexicon.script) ∧
        ∀ env e, (evaluate env (t.postorder M.lexicon.script)).1 = .error e → M.Raises env e) ∧
    (M.lexicon.KeepsSentences ↔ M.lexicon.Patient) :=
  ⟨fun _ _ h hn hs => sentence_kept M h hn hs, keepsSentences_iff a⟩

theorem keeps_structure_power :
    let o : BinaryOperator := ⟨"^", 3, .right, fun x y => .ok (x.pow y)⟩
    let u : UnaryOperator := ⟨"-", 4, .right, fun x => .ok (-x)⟩
    let M : Meaning Atom Callable BinaryOperator UnaryOperator := ⟨id, id, id, id⟩
    let ts : List Token := [.leftBracket, .number 2, .rightBracket, .operator o.operator,
      .operator u.operator, .var "x"]
    ∃ t : Tree Atom Callable BinaryOperator UnaryOperator, t.inOrder M.lexicon.script = ts ∧
      reversePolish 1 ts = .ok (t.postorder M.lexicon.script) ∧
      ∀ env e, (evaluate env (t.postorder M.lexicon.script)).1 = .error e → M.Raises env e := by
  intro o u M ts
  have hgroup : Derives M.lexicon.script .sentence [.leftBracket, .number 2, .rightBracket] :=
    .one (.plain (.group (.one (.plain (.leaf (Atom.number 2))))))
  have hsigned : Derives M.lexicon.script .signed [.operator u.operator, .var "x"] :=
    .unary u (.plain (.leaf (Atom.var "x")))
  have hcut : Uncut ts := by
    simp only [ts, Uncut, List.isChain_cons_cons, List.isChain_singleton, Token.cutBy, and_true]
    decide
  exact (M.keeps_structure (.number 2)).1 1 ts (.more o hgroup hsigned) (by decide) hcut

/-- A minus that binds less tightly than the product before it takes over the product, which is then
without a right operand. -/
theorem sentence_cut :
    let o : BinaryOperator := ⟨"*", 2, .left, fun x y => .ok (x * y)⟩
    let u : UnaryOperator := ⟨"-", 1, .right, fun x => .ok (-x)⟩
    let M : Meaning Atom Callable BinaryOperator UnaryOperator := ⟨id, id, id, id⟩
    let ts : List Token :=
      [.number 2, .operator o.operator, .operator u.operator, .number 3]
    let out : List Token :=
      [.number 2, .operator o.operator, .number 3, .operator u.operator]
    Derives M.lexicon.script .sentence ts ∧ Token.brackets.nesting ts ≤ 256 ∧
      reversePolish 256 ts = .ok out ∧
      (∀ t : Tree Atom Callable BinaryOperator UnaryOperator,
        t.inOrder M.lexicon.script = ts → t.postorder M.lexicon.script ≠ out) ∧
      ∀ env, (evaluate env out).1 = .error (.missingOperand "*") := by
  intro o u M ts out
  have hd : Derives M.lexicon.script .sentence ts :=
    .more o (.one (.plain (.leaf (Atom.number 2)))) (.unary u (.plain (.leaf (Atom.number 3))))
  refine ⟨hd, by decide, rfl, fun t ht he => ?_, fun env => rfl⟩
  have hcut : (M.lexicon.unary u).popsBefore (M.lexicon.binary o) = true := rfl
  have hread := misread_binary hcut 256 (a := .number 2) (b := .number 3) ht
  rw [ht, he] at hread
  exact hread rfl

end Reckoner
