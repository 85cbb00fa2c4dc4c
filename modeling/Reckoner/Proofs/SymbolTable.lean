import Reckoner.Builtin
import Reckoner.Proofs.RuleOrder

set_option autoImplicit false

namespace Reckoner

namespace Registry

/-- What registrations make of a registry with the basic rules, or of one without any rule. -/
inductive Reachable : Registry → Prop where
  | basic (sigil : Char) : Reachable (basic sigil)
  | bare (sigil : Char) : Reachable (bare sigil)
  | register {r r' : Registry} {g : Registration} : Reachable r → r.register g = .ok r' →
      Reachable r'
  | freeze {r : Registry} : Reachable r → Reachable r.freeze

def HasSymbol (r : Registry) (s : String) : Prop :=
  ∃ rule ∈ r.rules, rule.matcher = .literal s ∧ ∀ c ∈ s.toList, isWordPart c = false

end Registry

/-- What splitting relies on. -/
structure SymbolTable (symbols : List String) : Prop where
  sorted : symbols.Pairwise (symbolBefore · · = true)
  nonempty : ∀ s ∈ symbols, s ≠ ""
  unblank : ∀ s ∈ symbols, ∀ c ∈ s.toList, Text.isBlank c = false
  wordless : ∀ s ∈ symbols, ∀ c ∈ s.toList, isWordPart c = false

section

variable {s t u : String} {symbols : List String} {r r' : Registry} {g : Registration}

theorem symbolBefore_iff : symbolBefore s t = true ↔
    t.utf8ByteSize < s.utf8ByteSize ∨ s.utf8ByteSize = t.utf8ByteSize ∧ s < t := by
  simp [symbolBefore]

theorem symbolBefore_trans (hst : symbolBefore s t = true) (htu : symbolBefore t u = true) :
    symbolBefore s u = true := by
  rw [symbolBefore_iff] at *
  rcases hst with hst | ⟨hst, hlt⟩
  · exact .inl (by omega)
  · rcases htu with htu | ⟨htu, hlt'⟩
    · exact .inl (by omega)
    · exact .inr ⟨hst.trans htu, String.lt_trans hlt hlt'⟩

theorem symbolBefore_of_not (hne : s ≠ t) (h : ¬ symbolBefore s t = true) :
    symbolBefore t s = true := by
  rw [symbolBefore_iff, not_or, not_and] at h
  obtain ⟨hsize, horder⟩ := h
  rw [symbolBefore_iff]
  by_cases he : s.utf8ByteSize = t.utf8ByteSize
  · have hle : t ≤ s := String.not_lt.1 (horder he)
    refine .inr ⟨he.symm, Decidable.byContradiction fun hn => ?_⟩
    exact hne (String.le_antisymm (String.not_lt.1 hn) hle)
  · exact .inl (by omega)

theorem sorted_addSymbol (h : symbols.Pairwise (symbolBefore · · = true)) (s : String) :
    (addSymbol s symbols).Pairwise (symbolBefore · · = true) := by
  induction symbols with
  | nil => exact List.pairwise_singleton _ _
  | cons t ts ih =>
    obtain ⟨ht, hts⟩ := List.pairwise_cons.1 h
    simp only [addSymbol]
    split_ifs with he hb
    · exact h
    · refine List.pairwise_cons.2 ⟨fun u hu => ?_, h⟩
      rcases List.mem_cons.1 hu with rfl | hu
      · exact hb
      · exact symbolBefore_trans hb (ht u hu)
    · refine List.pairwise_cons.2 ⟨fun u hu => ?_, ih hts⟩
      rcases mem_addSymbol.1 hu with rfl | hu
      · exact symbolBefore_of_not he hb
      · exact ht u hu

namespace Registry

theorem sorted_symbols (r : Registry) : r.symbols.Pairwise (symbolBefore · · = true) := by
  rw [symbols]
  induction r.rules.filterMap (·.matcher.symbol?) with
  | nil => exact List.Pairwise.nil
  | cons s ts ih => exact sorted_addSymbol ih s

theorem mem_foldr_addSymbol {ts : List String} : s ∈ ts.foldr addSymbol [] ↔ s ∈ ts := by
  induction ts with
  | nil => rfl
  | cons t ts ih => rw [List.foldr_cons, mem_addSymbol, List.mem_cons, ih]

theorem symbol?_eq_some {m : Matcher} :
    m.symbol? = some s ↔ m = .literal s ∧ ∀ c ∈ s.toList, isWordPart c = false := by
  cases m with
  | literal t =>
    simp only [Matcher.symbol?, Option.ite_none_left_eq_some, Option.some.injEq,
      Matcher.literal.injEq, List.any_eq_true, not_exists, not_and, Bool.not_eq_true]
    constructor
    · rintro ⟨h, rfl⟩
      exact ⟨rfl, h⟩
    · rintro ⟨rfl, h⟩
      exact ⟨h, rfl⟩
  | _ => simp [Matcher.symbol?]

theorem mem_symbols : s ∈ r.symbols ↔ r.HasSymbol s := by
  simp only [symbols, mem_foldr_addSymbol, List.mem_filterMap, symbol?_eq_some, HasSymbol]

theorem wellFormed_basic (sigil : Char) : (basic sigil).WellFormed := by
  have hmarks : Text.isBlank '(' = false ∧ Text.isBlank ')' = false ∧
      Text.isBlank ',' = false := by decide
  refine ⟨?_, ?_, ?_, List.forall_mem_nil _⟩
  · simp [basic, ruleNames]
  · simp [basic]
  · simp [basic, hmarks]

theorem Reachable.wellFormed (h : r.Reachable) : r.WellFormed := by
  induction h with
  | basic sigil => exact wellFormed_basic sigil
  | bare sigil =>
    exact ⟨List.nodup_nil, List.forall_mem_nil _, List.forall_mem_nil _, List.forall_mem_nil _⟩
  | register _ hg ih =>
    obtain ⟨hcheck, rfl⟩ := register_ok hg
    exact ih.insert hcheck
  | freeze _ ih => exact ⟨ih.distinct, ih.named, ih.literals, ih.keys⟩

theorem Reachable.symbolTable (h : r.Reachable) : SymbolTable r.symbols := by
  have hliteral (s : String) (hs : s ∈ r.symbols) :
      s ≠ "" ∧ ∀ c ∈ s.toList, Text.isBlank c = false := by
    obtain ⟨rule, hm, hrule, -⟩ := mem_symbols.1 hs
    exact h.wellFormed.literals rule hm s hrule
  refine ⟨r.sorted_symbols, fun s hs => (hliteral s hs).1, fun s hs => (hliteral s hs).2,
    fun s hs => ?_⟩
  obtain ⟨rule, -, -, hword⟩ := mem_symbols.1 hs
  exact hword

theorem Reachable.insertAll {gs : List Registration} (h : r.Reachable) (hf : r.frozen = false)
    (hg : ∀ g ∈ gs, g.check = .ok ()) : (r.insertAll gs).Reachable := by
  induction gs generalizing r with
  | nil => exact h
  | cons g gs ih =>
    obtain ⟨hhead, htail⟩ := List.forall_mem_cons.1 hg
    exact ih (h.register (register_checked hf hhead)) ((r.insert_frozen g).trans hf) htail

theorem reachable_default (c : Config) : (Registry.default c).Reachable := by
  refine (Reachable.basic c.sigil).insertAll rfl ?_
  simp only [Builtin.operators, Builtin.functions, Builtin.unaryFunctions,
    List.forall_mem_append, List.forall_mem_cons, List.map_cons, List.map_nil]
  exact ⟨⟨rfl, rfl, rfl, rfl, rfl, rfl, List.forall_mem_nil _⟩,
    ⟨rfl, rfl, rfl, rfl, rfl, rfl, List.forall_mem_nil _⟩, rfl, rfl, rfl, List.forall_mem_nil _⟩

end Registry

end

end Reckoner
