import Mathlib.Data.List.Destutter
import Mathlib.Data.List.Sort
import Reckoner.Lexeme
import Reckoner.Proofs.SymbolTable

/-! The table of symbols depends on the literals alone. It is what sorting all literals and removing
repeated neighbours leaves, and a list of texts in this order has no other form. So registries with
the same symbols split texts in the same way, however they came to be.
-/

set_option autoImplicit false

namespace Reckoner

def symbolOrder (s t : String) : Ordering :=
  (compare t.utf8ByteSize s.utf8ByteSize).then (compare s t)

section

variable {s t : String} {ts us : List String} {r r' : Registry}

theorem isLE_symbolOrder : (symbolOrder s t).isLE = true ↔ s = t ∨ symbolBefore s t = true := by
  rw [symbolBefore_iff, symbolOrder]
  rcases Nat.lt_trichotomy t.utf8ByteSize s.utf8ByteSize with hlt | heq | hgt
  · rw [compare_lt_iff_lt.2 hlt]
    simp [hlt]
  · have hless : compare s t = .lt ↔ s < t := compareOfLessAndEq_eq_lt
    have hsame : compare s t = .eq ↔ s = t := Std.LawfulEqCmp.compare_eq_iff_eq
    rw [heq, compare_eq_iff_eq.2 rfl]
    simp only [Ordering.then, Ordering.isLE_iff_eq_lt_or_eq_eq, hless, hsame, Nat.lt_irrefl,
      true_and, false_or]
    exact or_comm
  · have hne : s ≠ t := fun h => Nat.lt_irrefl _ (h ▸ hgt)
    rw [compare_gt_iff_gt.2 hgt]
    simp [hne, Nat.lt_asymm hgt, Nat.ne_of_lt hgt]

theorem symbolBefore_irrefl (s : String) : ¬ symbolBefore s s = true := by
  rw [symbolBefore_iff]
  rintro (h | ⟨-, h⟩)
  · exact Nat.lt_irrefl _ h
  · exact String.lt_irrefl s h

theorem mem_destutter {l : List String} : s ∈ l.destutter (· ≠ ·) ↔ s ∈ l := by
  have hfrom (a : String) (l : List String) : s ∈ l.destutter' (· ≠ ·) a ↔ s = a ∨ s ∈ l := by
    induction l generalizing a with
    | nil => simp
    | cons b l ih =>
      by_cases h : a = b
      · subst h
        simp [ih]
      · simp [h, ih]
  cases l with
  | nil => rfl
  | cons a l => rw [List.destutter_cons', hfrom, List.mem_cons]

theorem strict_of_chain (hs : ts.Pairwise fun s t => (symbolOrder s t).isLE = true)
    (hne : ts.IsChain (· ≠ ·)) : ts.Pairwise (symbolBefore · · = true) := by
  induction ts with
  | nil => exact .nil
  | cons s ts ih =>
    obtain ⟨hs, hts⟩ := List.pairwise_cons.1 hs
    have hrest := ih hts hne.tail
    refine List.pairwise_cons.2 ⟨fun u hu => ?_, hrest⟩
    cases ts with
    | nil => cases hu
    | cons t ts =>
      have hst : symbolBefore s t = true :=
        (isLE_symbolOrder.1 (hs t List.mem_cons_self)).resolve_left (List.isChain_cons_cons.1 hne).1
      rcases List.mem_cons.1 hu with rfl | hu
      · exact hst
      · exact symbolBefore_trans hst ((List.pairwise_cons.1 hrest).1 u hu)

/-- A strictly sorted list is known by its members. -/
theorem eq_of_strict (hs : ts.Pairwise (symbolBefore · · = true))
    (hu : us.Pairwise (symbolBefore · · = true)) (h : ∀ s, s ∈ ts ↔ s ∈ us) : ts = us := by
  have hirrefl : Std.Irrefl fun s t => symbolBefore s t = true := ⟨symbolBefore_irrefl⟩
  have hantisymm : Std.Antisymm fun s t => symbolBefore s t = true :=
    ⟨fun s t hst hts => absurd (symbolBefore_trans hst hts) (symbolBefore_irrefl s)⟩
  exact hs.eq_of_mem_iff hu h

namespace Registry

/-- The symbols in order, with their repetitions. -/
def sortedLiterals (r : Registry) : List String :=
  (r.rules.filterMap (·.matcher.symbol?)).mergeSort fun s t => (symbolOrder s t).isLE

theorem sorted_sortedLiterals (r : Registry) :
    r.sortedLiterals.Pairwise fun s t => (symbolOrder s t).isLE = true := by
  refine List.pairwise_mergeSort (fun s t u hst htu => ?_) (fun s t => ?_) _
  · rw [isLE_symbolOrder] at *
    rcases hst with rfl | hst
    · exact htu
    · rcases htu with rfl | htu
      · exact .inr hst
      · exact .inr (symbolBefore_trans hst htu)
  · rw [Bool.or_eq_true, isLE_symbolOrder, isLE_symbolOrder]
    by_cases he : s = t
    · exact .inl (.inl he)
    · by_cases hb : symbolBefore s t = true
      · exact .inl (.inr hb)
      · exact .inr (.inr (symbolBefore_of_not he hb))

theorem symbols_eq_destutter (r : Registry) :
    r.symbols = r.sortedLiterals.destutter (· ≠ ·) := by
  refine eq_of_strict r.sorted_symbols (strict_of_chain ?_ (List.isChain_destutter _ _)) fun s => ?_
  · exact r.sorted_sortedLiterals.sublist (List.destutter_sublist _ _)
  · rw [mem_destutter, sortedLiterals, List.mem_mergeSort, symbols, mem_foldr_addSymbol]

/-- The table is the sorted literals without repetitions: each symbol once, longer ones first and
those of one length in their order as texts. Registries with the same symbols have one table, and
split all texts alike. -/
theorem symbols_canonical (r : Registry) :
    r.symbols = r.sortedLiterals.destutter (· ≠ ·) ∧
    (∀ s, s ∈ r.symbols ↔ r.HasSymbol s) ∧ r.symbols.Nodup ∧
    (r.symbols.Pairwise fun s t => t.utf8ByteSize < s.utf8ByteSize ∨
      s.utf8ByteSize = t.utf8ByteSize ∧ s < t) ∧
    ∀ r' : Registry, r'.sigil = r.sigil → (∀ s, r'.HasSymbol s ↔ r.HasSymbol s) →
      ∀ text, r'.lexemes text = r.lexemes text := by
  refine ⟨r.symbols_eq_destutter, fun s => mem_symbols, ?_, ?_, fun r' hsigil hsymbols text => ?_⟩
  · refine r.sorted_symbols.imp fun hst he => ?_
    exact symbolBefore_irrefl _ (he ▸ hst)
  · exact r.sorted_symbols.imp symbolBefore_iff.1
  · have htable : r'.symbols = r.symbols := by
      refine eq_of_strict r'.sorted_symbols r.sorted_symbols fun s => ?_
      rw [mem_symbols, mem_symbols, hsymbols]
    rw [lexemes, lexemes, hsigil, htable]

theorem symbols_canonical_twice : ∃ r r' : Registry, r.Reachable ∧ r'.Reachable ∧
    r.ruleNames = ["atMost", "less"] ∧ r'.ruleNames = ["mod", "below", "less", "atMost"] ∧
    r.symbols = ["<=", "<"] ∧ r'.sigil = r.sigil ∧ (∀ s, r'.HasSymbol s ↔ r.HasSymbol s) ∧
    ∀ text, r'.lexemes text = r.lexemes text := by
  let rule (name s : String) : Registration := .operator name (.literal s) Builtin.plus
  let r := (bare '$').insertAll [rule "less" "<", rule "atMost" "<="]
  let r' := (bare '$').insertAll
    [rule "atMost" "<=", rule "less" "<", rule "below" "<", rule "mod" "mod"]
  have hr : r.Reachable := (Reachable.bare '$').insertAll rfl <|
    List.forall_mem_cons.2 ⟨rfl, List.forall_mem_singleton.2 rfl⟩
  have hr' : r'.Reachable := (Reachable.bare '$').insertAll rfl <|
    List.forall_mem_cons.2 ⟨rfl, List.forall_mem_cons.2 ⟨rfl, List.forall_mem_cons.2
      ⟨rfl, List.forall_mem_singleton.2 rfl⟩⟩⟩
  have hs : r.symbols = ["<=", "<"] := by decide +kernel
  have hs' : r'.symbols = ["<=", "<"] := by decide +kernel
  have hsame : ∀ s, r'.HasSymbol s ↔ r.HasSymbol s := fun s => by
    rw [← mem_symbols, ← mem_symbols, hs, hs']
  obtain ⟨-, -, -, -, hsplit⟩ := r.symbols_canonical
  exact ⟨r, r', hr, hr', rfl, rfl, hs, rfl, hsame, hsplit r' rfl hsame⟩

end Registry

end

end Reckoner
