import Reckoner.Builtin
import Reckoner.Proofs.Conversion
import Reckoner.Proofs.Tree

/-! The conversion to reverse Polish order on the tokens of a tree. A tree is ordered when its
operators stand as their priorities ask. The conversion of its tokens is then its postorder, or
fails since the brackets nest too deep. While a tree is read, the operators on its right edge are
those that wait.
-/

set_option autoImplicit false

namespace Reckoner

namespace Tree

variable {α φ β υ : Type} (L : Lexicon α φ β υ)

/-- The operators on the right edge that still wait for the end of their last operand. -/
def rightSpine : Tree α φ β υ → List Operator
  | .binary o _ r => L.binary o :: r.rightSpine
  | .unary u e => L.unary u :: e.rightSpine
  | _ => []

/-- The operators on the left edge that come after nothing else of the tree. -/
def leftSpine : Tree α φ β υ → List Operator
  | .binary o l _ => L.binary o :: l.leftSpine
  | .unary u _ => [L.unary u]
  | _ => []

/-- Each operator is applied before those which come after it only if it should be. -/
inductive Ordered : Tree α φ β υ → Prop where
  | leaf (a : α) : Ordered (.leaf a)
  | group {e : Tree α φ β υ} : Ordered e → Ordered (.group e)
  | call {f : φ} {args : List (Tree α φ β υ)} : (∀ t ∈ args, Ordered t) → Ordered (.call f args)
  | binary {o : β} {l r : Tree α φ β υ} : Ordered l → Ordered r →
      (∀ x ∈ l.rightSpine L, (L.binary o).popsBefore x = true) →
      (∀ x ∈ r.leftSpine L, x.popsBefore (L.binary o) = false) → Ordered (.binary o l r)
  | unary {u : υ} {e : Tree α φ β υ} : Ordered e →
      (∀ x ∈ e.leftSpine L, x.popsBefore (L.unary u) = false) → Ordered (.unary u e)

/-- What is written of a tree when its last token is read. -/
def settled : Tree α φ β υ → List Token
  | .binary _ l r => l.postorder L.script ++ r.settled
  | .unary _ e => e.settled
  | t => t.postorder L.script

def lastToken : Tree α φ β υ → Token
  | .leaf a => (L.leaf a).token
  | .binary _ _ r => r.lastToken
  | .unary _ e => e.lastToken
  | _ => .rightBracket

/-- The right edge is written from the inside to the outside. -/
theorem settled_append_rightSpine (t : Tree α φ β υ) :
    t.settled L ++ (t.rightSpine L).reverse.map .operator = t.postorder L.script := by
  induction t with
  | leaf a => simp [settled, rightSpine]
  | group e ih => simp [settled, rightSpine]
  | call f args ih => simp [settled, rightSpine]
  | binary o l r hl hr => simp [settled, rightSpine, postorder, ← hr]
  | unary u e ih => simp [settled, rightSpine, postorder, ← ih]

theorem closes_lastToken (t : Tree α φ β υ) : (t.lastToken L).closes = true := by
  induction t with
  | leaf a => exact (L.leaf a).closes_token
  | group e ih => rfl
  | call f args ih => rfl
  | binary o l r hl hr => exact hr
  | unary u e ih => exact ih

theorem inOrder_last (t : Tree α φ β υ) :
    ∃ ts, t.inOrder L.script = ts ++ [t.lastToken L] := by
  induction t with
  | leaf a => exact ⟨[], rfl⟩
  | group e ih => exact ⟨.leftBracket :: e.inOrder L.script, rfl⟩
  | call f args ih =>
    exact ⟨.function (L.function f) :: .leftBracket :: arguments L.script args, rfl⟩
  | binary o l r hl hr =>
    obtain ⟨ts, h⟩ := hr
    refine ⟨l.inOrder L.script ++ .operator (L.binary o) :: ts, ?_⟩
    rw [inOrder, h, List.append_assoc]
    rfl
  | unary u e ih =>
    obtain ⟨ts, h⟩ := ih
    exact ⟨.operator (L.unary u) :: ts, by rw [inOrder, h]; rfl⟩

end Tree

/-- None of the operators is applied after what waits on top, and no call is begun there. -/
def Clear (xs : List Operator) : List Waiting → Prop
  | .operator p :: _ => ∀ x ∈ xs, x.popsBefore p = false
  | .function _ :: _ => False
  | _ => True

theorem Clear.mono {xs ys : List Operator} {ws : List Waiting} (h : Clear ys ws)
    (hs : ∀ x ∈ xs, x ∈ ys) : Clear xs ws := by
  rcases ws with _ | ⟨p | f | _, ws⟩
  · trivial
  · exact fun x hx => h x (hs x hx)
  · exact h
  · trivial

theorem Clear.release {xs : List Operator} {ws : List Waiting} (h : Clear xs ws) {o : Operator}
    (ho : o ∈ xs) (output : List Token) : release o ws output = (ws, output) := by
  rcases ws with _ | ⟨p | f | _, ws⟩
  · rfl
  · have hp : o.popsBefore p = false := h o ho
    simp [Reckoner.release, hp]
  · rfl
  · rfl

theorem Clear.atCall {xs : List Operator} {ws : List Waiting} (h : Clear xs ws) :
    atCall ws = false := by
  rcases ws with _ | ⟨p | f | _, ws⟩
  · rfl
  · rfl
  · exact h.elim
  · rfl

namespace Tree

variable {α φ β υ : Type} (L : Lexicon α φ β υ)

def after (t : Tree α φ β υ) (s : Conversion) : Conversion where
  output := (t.settled L).reverse ++ s.output
  waiting := (t.rightSpine L).reverse.map .operator ++ s.waiting
  depth := s.depth
  previous := some (t.lastToken L)

theorem spine_flush (t : Tree α φ β υ) (output : List Token) :
    ((t.rightSpine L).reverse.map Token.operator).reverse ++ ((t.settled L).reverse ++ output) =
      (t.postorder L.script).reverse ++ output := by
  rw [← t.settled_append_rightSpine L, List.reverse_append, List.append_assoc]

theorem release_after {o : Operator} {t : Tree α φ β υ}
    (h : ∀ x ∈ t.rightSpine L, o.popsBefore x = true) (s : Conversion) :
    release o (t.after L s).waiting (t.after L s).output =
      release o s.waiting ((t.postorder L.script).reverse ++ s.output) := by
  simp only [after]
  rw [release_operators (fun x hx => h x (List.mem_reverse.1 hx)), spine_flush]

theorem toBracket_after (t : Tree α φ β υ) (s : Conversion) :
    toBracket (t.after L s).waiting (t.after L s).output =
      toBracket s.waiting ((t.postorder L.script).reverse ++ s.output) := by
  simp only [after, toBracket_operators, spine_flush]

theorem finish_after (t : Tree α φ β υ) (s : Conversion) :
    finish (t.after L s).waiting (t.after L s).output =
      finish s.waiting ((t.postorder L.script).reverse ++ s.output) := by
  simp only [after, finish_operators, spine_flush]

theorem afterComma_after (t : Tree α φ β υ) (s : Conversion) :
    (t.after L s).afterComma = false := by
  have h := t.closes_lastToken L
  simp only [Conversion.afterComma, after]
  split
  · next e => rw [Option.some.inj e] at h; cases h
  · rfl

theorem afterLeftBracket_after (t : Tree α φ β υ) (s : Conversion) :
    (t.after L s).afterLeftBracket = false := by
  have h := t.closes_lastToken L
  simp only [Conversion.afterLeftBracket, after]
  split
  · next e => rw [Option.some.inj e] at h; cases h
  · rfl

/-- Reading the tree from any state leads to the state after it, if the depth allows. -/
def Converts (t : Tree α φ β υ) : Prop :=
  ∀ (limit : Nat) (s : Conversion) (rest : List Token),
    s.depth ≤ limit → Clear (t.leftSpine L) s.waiting →
    s.run limit (t.inOrder L.script ++ rest) =
      if s.depth + t.depth ≤ limit then (t.after L s).run limit rest
      else .error (.tooDeep limit)

theorem converts_leaf (a : α) : Converts L (.leaf a : Tree α φ β υ) := by
  intro limit s rest hd _
  have hs : s.step limit (L.leaf a).token = .ok ((leaf a : Tree α φ β υ).after L s) :=
    s.step_atom limit (L.leaf a)
  simp [inOrder, Conversion.run, hs, depth, hd]

theorem converts_binary {o : β} {l r : Tree α φ β υ} (hl : Converts L l) (hr : Converts L r)
    (hpop : ∀ x ∈ l.rightSpine L, (L.binary o).popsBefore x = true)
    (hstay : ∀ x ∈ r.leftSpine L, x.popsBefore (L.binary o) = false) :
    Converts L (.binary o l r) := by
  intro limit s rest hd hc
  have hcl : Clear (l.leftSpine L) s.waiting :=
    hc.mono fun x hx => List.mem_cons_of_mem _ hx
  let s' : Conversion := { s with
    output := (l.postorder L.script).reverse ++ s.output
    waiting := .operator (L.binary o) :: s.waiting
    previous := some (.operator (L.binary o)) }
  -- The operator flushes the right edge of its left operand and nothing below it.
  have ho : (l.after L s).operator (L.binary o) = s' := by
    have hrel := release_after L hpop s
    rw [hc.release List.mem_cons_self] at hrel
    simp only [Conversion.operator, hrel]
    rfl
  have hcr : Clear (r.leftSpine L) s'.waiting := hstay
  have hafter : r.after L s' = (binary o l r).after L s := by
    simp [s', after, settled, rightSpine, lastToken]
  simp only [inOrder, List.append_assoc, List.cons_append]
  rw [hl limit s _ hd hcl]
  by_cases hdl : s.depth + l.depth ≤ limit
  · rw [if_pos hdl]
    simp only [Lexicon.script_binary, Conversion.run, Conversion.step, ho]
    rw [hr limit s' rest hd hcr, hafter]
    by_cases hdr : s.depth + r.depth ≤ limit
    · rw [if_pos hdr, if_pos (by simp only [depth]; omega)]
    · rw [if_neg hdr, if_neg (by simp only [depth]; omega)]
  · rw [if_neg hdl, if_neg (by simp only [depth]; omega)]

theorem converts_unary {u : υ} {e : Tree α φ β υ} (he : Converts L e)
    (hstay : ∀ x ∈ e.leftSpine L, x.popsBefore (L.unary u) = false) :
    Converts L (.unary u e) := by
  intro limit s rest hd hc
  let s' : Conversion := { s with
    waiting := .operator (L.unary u) :: s.waiting
    previous := some (.operator (L.unary u)) }
  have hu : s.operator (L.unary u) = s' := by
    simp only [Conversion.operator, hc.release List.mem_cons_self]
    rfl
  have hce : Clear (e.leftSpine L) s'.waiting := hstay
  have hafter : e.after L s' = (unary u e).after L s := by
    simp [s', after, settled, rightSpine, lastToken]
  simp only [inOrder, List.cons_append, Lexicon.script_unary, Conversion.run, Conversion.step, hu]
  rw [he limit s' rest hd hce, hafter]
  rfl

theorem converts_group {e : Tree α φ β υ} (he : Converts L e) : Converts L (.group e) := by
  intro limit s rest hd hc
  let s' : Conversion :=
    ⟨s.output, .bracket :: s.waiting, s.depth + 1, some .leftBracket⟩
  have hafter : (e.after L s').rightBracket = .ok ((group e).after L s) := by
    rw [Conversion.rightBracket_plain (e.afterComma_after L s') (e.toBracket_after L s') hc.atCall]
    rfl
  simp only [inOrder, List.cons_append, List.append_assoc, List.nil_append, Lexicon.script_opening,
    Lexicon.script_closing, Conversion.run, Conversion.step]
  by_cases hlim : s.depth + 1 ≤ limit
  · rw [Conversion.leftBracket_plain hlim hc.atCall]
    simp only []
    rw [he limit s' _ hlim trivial]
    by_cases hde : s.depth + 1 + e.depth ≤ limit
    · rw [if_pos hde, if_pos (by simp only [depth]; omega)]
      simp only [Conversion.run, Conversion.step, hafter]
    · rw [if_neg hde, if_neg (by simp only [depth]; omega)]
  · rw [Conversion.leftBracket_tooDeep (by omega), if_neg (by simp only [depth]; omega)]

/-- The arguments after the first and the closing bracket of a call, which is then written. -/
theorem run_furtherArguments {ts : List (Tree α φ β υ)} (h : ∀ t ∈ ts, Converts L t)
    (t : Tree α φ β υ) {limit : Nat} {s : Conversion} {f : Callable} {ws : List Waiting}
    (hw : s.waiting = .bracket :: .function f :: ws) (hd : s.depth ≤ limit) (rest : List Token) :
    (t.after L s).run limit (furtherArguments L.script ts ++ .rightBracket :: rest) =
      if s.depth + depths ts ≤ limit then
        Conversion.run limit ⟨.function f :: ((postorders L.script (t :: ts)).reverse ++ s.output),
          ws, s.depth - 1, some .rightBracket⟩ rest
      else .error (.tooDeep limit) := by
  induction ts generalizing t s with
  | nil =>
    have hb : toBracket (t.after L s).waiting (t.after L s).output =
        some (.function f :: ws, (t.postorder L.script).reverse ++ s.output) := by
      rw [toBracket_after, hw]
      rfl
    rw [if_pos (by simpa only [depths, Nat.add_zero] using hd)]
    simp only [furtherArguments, List.nil_append, Conversion.run, Conversion.step,
      Conversion.rightBracket_call (t.afterComma_after L s) hb, postorders, List.append_nil]
    rfl
  | cons u us ih =>
    let s' : Conversion := { s with
      output := (t.postorder L.script).reverse ++ s.output
      waiting := .bracket :: .function f :: ws
      previous := some .comma }
    have hw' : s'.waiting = .bracket :: .function f :: ws := rfl
    have hb : toBracket (t.after L s).waiting (t.after L s).output =
        some (.function f :: ws, s'.output) := by
      rw [toBracket_after, hw]
      rfl
    have hcomma : (t.after L s).comma = .ok s' :=
      Conversion.comma_call (t.afterLeftBracket_after L s) (t.afterComma_after L s) hb
    have hu : Converts L u := h u List.mem_cons_self
    simp only [furtherArguments, Lexicon.script_comma, List.cons_append, List.append_assoc,
      Conversion.run, Conversion.step, hcomma]
    rw [hu limit s' _ hd trivial]
    by_cases hdu : s.depth + u.depth ≤ limit
    · rw [if_pos hdu, ih (fun x hx => h x (List.mem_cons_of_mem u hx)) u hw' hd]
      have hout : (postorders L.script (u :: us)).reverse ++ s'.output =
          (postorders L.script (t :: u :: us)).reverse ++ s.output := by
        simp [s', postorders]
      rw [hout]
      by_cases hdus : s.depth + depths us ≤ limit
      · rw [if_pos hdus, if_pos (by simp only [depths]; omega)]
      · rw [if_neg hdus, if_neg (by simp only [depths]; omega)]
    · rw [if_neg hdu, if_neg (by simp only [depths]; omega)]

theorem converts_call {f : φ} {args : List (Tree α φ β υ)} (h : ∀ t ∈ args, Converts L t) :
    Converts L (.call f args) := by
  intro limit s rest hd hc
  let s' : Conversion := ⟨.leftBracket :: s.output,
    .bracket :: .function (L.function f) :: s.waiting, s.depth + 1, some .leftBracket⟩
  have hafter : (call f args : Tree α φ β υ).after L s =
      ⟨.function (L.function f) :: ((postorders L.script args).reverse ++ s'.output), s.waiting,
        s.depth, some .rightBracket⟩ := by
    simp [s', after, settled, rightSpine, lastToken, postorder]
  simp only [inOrder, List.cons_append, List.append_assoc, List.nil_append, Lexicon.script_opening,
    Lexicon.script_closing, Lexicon.script_function, Conversion.run, Conversion.step]
  by_cases hlim : s.depth + 1 ≤ limit
  · have hopen : (s.function (L.function f)).leftBracket limit = .ok s' :=
      Conversion.leftBracket_call hlim rfl
    rw [hopen]
    cases args with
    | nil =>
      have hclose : s'.rightBracket = .ok ((call f [] : Tree α φ β υ).after L s) := by
        rw [hafter]
        exact Conversion.rightBracket_call rfl rfl
      rw [if_pos (by simpa only [depth, depths] using hlim)]
      simp only [arguments, List.nil_append, Conversion.run, Conversion.step, hclose]
    | cons t ts =>
      have ht : Converts L t := h t List.mem_cons_self
      simp only [arguments, List.append_assoc]
      rw [ht limit s' _ hlim trivial, hafter]
      by_cases hdt : s.depth + 1 + t.depth ≤ limit
      · rw [if_pos hdt, run_furtherArguments L (fun x hx => h x (List.mem_cons_of_mem t hx)) t rfl
          hlim]
        by_cases hdts : s.depth + 1 + depths ts ≤ limit
        · rw [if_pos hdts, if_pos (by simp only [depth, depths]; omega)]
          rfl
        · rw [if_neg hdts, if_neg (by simp only [depth, depths]; omega)]
      · rw [if_neg hdt, if_neg (by simp only [depth, depths]; omega)]
  · have hopen : (s.function (L.function f)).leftBracket limit = .error (.tooDeep limit) :=
      Conversion.leftBracket_tooDeep (show limit < s.depth + 1 by omega)
    rw [hopen, if_neg (by simp only [depth]; omega)]

theorem converts_of_ordered {t : Tree α φ β υ} (h : t.Ordered L) : Converts L t := by
  induction h with
  | leaf a => exact converts_leaf L a
  | group _ ih => exact converts_group L ih
  | call _ ih => exact converts_call L ih
  | binary _ _ hpop hstay hl hr => exact converts_binary L hl hr hpop hstay
  | unary _ hstay ih => exact converts_unary L ih hstay

theorem reversePolish_of_ordered {t : Tree α φ β υ} (h : t.Ordered L) {limit : Nat}
    (hd : t.depth ≤ limit) :
    reversePolish limit (t.inOrder L.script) = .ok (t.postorder L.script) := by
  have hrun := converts_of_ordered L h limit {} [] (Nat.zero_le limit) trivial
  rw [List.append_nil, Nat.zero_add, if_pos hd] at hrun
  simp only [reversePolish, hrun, Conversion.run, finish_after, finish, List.append_nil,
    List.reverse_reverse]

theorem reversePolish_of_nested {t : Tree α φ β υ} (h : t.Ordered L) {limit : Nat}
    (hd : limit < t.depth) :
    reversePolish limit (t.inOrder L.script) = .error (.tooDeep limit) := by
  have hrun := converts_of_ordered L h limit {} [] (Nat.zero_le limit) trivial
  rw [List.append_nil, Nat.zero_add, if_neg (by omega)] at hrun
  simp only [reversePolish, hrun]

/-- The infix order of an ordered tree is converted to its postorder, unless it nests too deep. -/
theorem reversePolish_inOrder {t : Tree α φ β υ} (h : t.Ordered L) (limit : Nat) :
    reversePolish limit (t.inOrder L.script) =
      if t.depth ≤ limit then .ok (t.postorder L.script) else .error (.tooDeep limit) := by
  by_cases hd : t.depth ≤ limit
  · rw [if_pos hd, reversePolish_of_ordered L h hd]
  · rw [if_neg hd, reversePolish_of_nested L h (by omega)]

theorem reversePolish_inOrder_call :
    let f : Callable := callable "max" 2 true (Builtin.callFold "max" Builtin.greater)
    reversePolish 1 [.operator Builtin.negation, .var "x", .operator Builtin.times, .leftBracket,
        .number 1, .rightBracket, .operator Builtin.minus, .function f, .leftBracket, .number 2,
        .operator Builtin.power, .number 3, .operator Builtin.power, .number 4, .comma, .text "s",
        .rightBracket] =
      .ok [.var "x", .operator Builtin.negation, .number 1, .operator Builtin.times, .leftBracket,
        .number 2, .number 3, .number 4, .operator Builtin.power, .operator Builtin.power,
        .text "s", .function f, .operator Builtin.minus] := by
  intro f
  let L : Lexicon Atom Callable Operator Operator := ⟨id, id, id, id⟩
  let powers : Tree Atom Callable Operator Operator := .binary Builtin.power (.leaf (.number 2))
    (.binary Builtin.power (.leaf (.number 3)) (.leaf (.number 4)))
  let left : Tree Atom Callable Operator Operator :=
    .binary Builtin.times (.unary Builtin.negation (.leaf (.var "x"))) (.group (.leaf (.number 1)))
  let t : Tree Atom Callable Operator Operator :=
    .binary Builtin.minus left (.call f [powers, .leaf (.text "s")])
  have hpowers : powers.Ordered L :=
    .binary (.leaf _) (.binary (.leaf _) (.leaf _) (List.forall_mem_nil _) (List.forall_mem_nil _))
      (List.forall_mem_nil _) (List.forall_mem_singleton.2 rfl)
  have hleft : left.Ordered L :=
    .binary (.unary (.leaf _) (List.forall_mem_nil _)) (.group (.leaf _))
      (List.forall_mem_singleton.2 rfl) (List.forall_mem_nil _)
  have hargs : ∀ u ∈ [powers, .leaf (.text "s")], u.Ordered L :=
    List.forall_mem_cons.2 ⟨hpowers, List.forall_mem_singleton.2 (.leaf _)⟩
  have ht : t.Ordered L := .binary hleft (.call hargs) (List.forall_mem_singleton.2 rfl)
    (List.forall_mem_nil _)
  exact reversePolish_inOrder L ht 1

end Tree

end Reckoner
