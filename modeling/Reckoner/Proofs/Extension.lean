import Reckoner.Comparison
import Reckoner.Proofs.Registration
import Reckoner.Proofs.StrictDivision
import Reckoner.Proofs.Tokenization

set_option autoImplicit false

namespace Reckoner

namespace Comparison

def conditionRule (c : Condition) : Rule :=
  ⟨c.name, .literal c.symbol, fun _ => .ok (.operator c.operator)⟩

def conditionRules : List Rule := Condition.all.reverse.map conditionRule

/-- What the comparisons give a meaning to, and the single characters in it. -/
def words : List String := ["compare", "if", "!=", "==", "<=", "<", ">=", ">", "=", "!"]

def marks : List Char := ['<', '>', '=', '!']

def symbols : List String :=
  ["!=", "<=", "==", ">=", "(", ")", "*", "+", ",", "-", "/", "<", ">", "^"]

end Comparison

def Registry.extended (c : Config) : Registry :=
  (Registry.default c).insertAll Comparison.registrations

section

variable {c : Config} {sigil : Char} {l : String} {next : Option String}

theorem rules_extended (c : Config) : (Registry.extended c).rules =
    Comparison.conditionRules ++ (Registry.default c).rules := by
  rw [rules_default]
  simp [Registry.extended, Registry.insertAll, Comparison.registrations, Comparison.Condition.all,
    Registry.insert, place, rules_default, Comparison.conditionRules, Comparison.conditionRule,
    Comparison.Condition.name]

theorem functions_extended (c : Config) : (Registry.extended c).functions =
    ((Registry.default c).functions.set "compare" (callable "compare" 2 true Comparison.compare)).set
      "if" (callable "if" 3 false Comparison.choose) := rfl

theorem function?_extended (hc : l ≠ "compare") (hi : l ≠ "if") :
    (Registry.extended c).function? l = (Registry.default c).function? l := by
  rw [Registry.function?, functions_extended, Bindings.get?_set, Bindings.get?_set,
    if_neg hi.symm, if_neg hc.symm, Registry.function?]

theorem symbols_extended (c : Config) : (Registry.extended c).symbols = Comparison.symbols := by
  have hsymbols : (Registry.extended c).rules.filterMap (·.matcher.symbol?) =
      ["!=", "==", "<=", "<", ">=", ">", "^", "/", "*", "-", "+", "(", ")", ","] := by
    rw [rules_extended, rules_default]
    rfl
  rw [Registry.symbols, hsymbols]
  decide +kernel

theorem not_mem_words (hs : Sigil sigil) (h : Known sigil l next) : l ∉ Comparison.words := by
  have hnumeral : ∀ s ∈ Comparison.words, Number.isNumeral Char.isDigit s.toList = false := by
    decide
  have hquoted : ∀ s ∈ Comparison.words, isQuotedText s.toList = false := by decide
  have hreference : ∀ s ∈ Comparison.words, isReference sigil s.toList = false := by
    have hletter (d : Char) (hd : Text.isIdentifierStart d = true) : d ≠ sigil := by
      rintro rfl
      rw [hs.notStart] at hd
      cases hd
    have hequal : Text.isIdentifierStart '=' = false := rfl
    simp [Comparison.words, isReference, Text.isIdentifier, hletter 'c' rfl, hletter 'i' rfl,
      hequal]
  have hfunction : ∀ s ∈ functionNames, s ∉ Comparison.words := by decide
  obtain ⟨i, rfl, -⟩ := h
  cases i with
  | number n hn =>
    refine not_mem_of_test (Number.isNumeral Char.isDigit) ?_ hnumeral
    rw [Item.lexeme, String.toList_ofList]
    exact (Number.isNumeral_iff Number.apart_isDigit).2 ⟨n, hn, rfl⟩
  | text s h =>
    refine not_mem_of_test isQuotedText ?_ hquoted
    rw [Item.lexeme, String.toList_ofList]
    exact isQuotedText_iff.2 ⟨_, h, rfl⟩
  | var name h =>
    refine not_mem_of_test (isReference sigil) ?_ hreference
    rw [Item.lexeme, String.toList_ofList]
    exact isReference_iff.2 ⟨_, h, rfl⟩
  | opening => simp [Item.lexeme, Comparison.words]
  | closing => simp [Item.lexeme, Comparison.words]
  | comma => simp [Item.lexeme, Comparison.words]
  | sign o => cases o <;> simp [Item.lexeme, Sign.lexeme, Comparison.words]
  | function f => exact hfunction _ (mem_functionNames (c := {}) f.found)

/-- Every other lexeme is resolved as without the comparisons. -/
theorem resolve_extended (hl : l ∉ Comparison.words) (preceding : List Token) (called : Bool) :
    (Registry.extended c).resolve l preceding called =
      (Registry.default c).resolve l preceding called := by
  have hf : (Registry.extended c).function? l = (Registry.default c).function? l :=
    function?_extended (by rintro rfl; exact hl (by decide)) (by rintro rfl; exact hl (by decide))
  have hrefused : ∀ rule ∈ Comparison.conditionRules, rule.matcher.accepts l preceding ≠ true := by
    simp only [Comparison.conditionRules, List.forall_mem_map, List.mem_reverse]
    rintro condition -
    have hword : condition.symbol ∈ Comparison.words := by cases condition <;> decide
    rintro haccepts
    rw [beq_iff_eq.1 haccepts] at hword
    exact hl hword
  have hnone : Comparison.conditionRules.find? (·.matcher.accepts l preceding) = none :=
    List.find?_eq_none.2 hrefused
  simp only [Registry.resolve, Registry.resolveFunction, hf, rules_extended, List.find?_append,
    hnone, Option.none_or]

theorem longestSymbol?_extended {d : Char} (hd : d ∉ Comparison.marks) (after : List Char) :
    longestSymbol? Comparison.symbols (d :: after) = longestSymbol? defaultSymbols (d :: after) := by
  simp only [Comparison.marks, List.mem_cons, List.not_mem_nil, or_false, not_or] at hd
  obtain ⟨hless, hgreater, hequal, hnot⟩ := hd
  simp [longestSymbol?, Comparison.symbols, defaultSymbols, List.find?_cons, Ne.symm hless,
    Ne.symm hgreater, Ne.symm hequal, Ne.symm hnot]

theorem lexemeTail_extended {d : Char} {after tail : List Char}
    (h : lexemeTail sigil defaultSymbols d after = some tail)
    (hl : String.ofList (d :: tail) ∉ Comparison.words) :
    lexemeTail sigil Comparison.symbols d after = some tail := by
  by_cases hd : d ∈ Comparison.marks
  · -- Without the comparisons a mark is a lexeme of its own, which is a word of them.
    have hwords : ∀ d ∈ Comparison.marks, String.ofList [d] ∈ Comparison.words := by
      simp only [Comparison.marks, List.mem_cons, List.not_mem_nil, or_false]
      rintro d (rfl | rfl | rfl | rfl) <;> decide
    have hnone : ∀ d ∈ Comparison.marks, longestSymbol? defaultSymbols (d :: after) = none := by
      simp [Comparison.marks, longestSymbol?, defaultSymbols]
    have hquote : d ≠ '"' := by
      rintro rfl
      revert hd
      decide
    unfold lexemeTail at h ⊢
    split_ifs at h ⊢ with hn hi
    · exact h
    · exact h
    · rw [hnone d hd] at h
      cases h
      exact absurd (hwords d hd) hl
  · simpa only [lexemeTail, longestSymbol?_extended hd] using h

/-- A text splits as without the comparisons, if that gives none of their words. -/
theorem scan_extended {cs : List Char} {ls : List (List Char)}
    (h : scan sigil defaultSymbols cs = .ok ls)
    (hl : ∀ l ∈ ls, String.ofList l ∉ Comparison.words) :
    scan sigil Comparison.symbols cs = .ok ls := by
  induction hn : cs.length using Nat.strong_induction_on generalizing cs ls with
  | _ n ih =>
    subst hn
    cases hcs : cs.dropWhile Text.isBlank with
    | nil =>
      rw [scan_nil hcs] at h ⊢
      exact h
    | cons d after =>
      cases ht : lexemeTail sigil defaultSymbols d after with
      | none =>
        rw [scan_unclosed hcs ht] at h
        cases h
      | some tail =>
        rw [scan_lexeme hcs ht] at h
        cases hrest : scan sigil defaultSymbols (after.drop tail.length) with
        | error e =>
          rw [hrest] at h
          cases h
        | ok rest =>
          rw [hrest] at h
          cases h
          obtain ⟨hhead, htail⟩ := List.forall_mem_cons.1 hl
          have hshort : (after.drop tail.length).length < cs.length := by
            have hle := (List.dropWhile_sublist (p := Text.isBlank) (l := cs)).length_le
            rw [hcs, List.length_cons] at hle
            rw [List.length_drop]
            omega
          exact scan_cons hcs (lexemeTail_extended ht hhead) (ih _ hshort hrest htail rfl)

theorem resolveAll_extended {preceding : List Token} {ls : List String}
    (hl : ∀ l ∈ ls, l ∉ Comparison.words) :
    (Registry.extended c).resolveAll preceding ls = (Registry.default c).resolveAll preceding ls := by
  induction ls generalizing preceding with
  | nil => simp only [Registry.resolveAll]
  | cons l ls ih =>
    obtain ⟨hhead, htail⟩ := List.forall_mem_cons.1 hl
    simp only [Registry.resolveAll, resolve_extended hhead, ih htail]

theorem lexemes_extended (c : Config) (s : String) : (Registry.extended c).lexemes s =
    (scan c.sigil Comparison.symbols s.toList).map (·.map .ofList) := by
  have hsigil : (Registry.extended c).sigil = c.sigil :=
    (Registry.insertAll_sigil _ _).trans (Registry.insertAll_sigil _ _)
  rw [Registry.lexemes, symbols_extended, hsigil]

theorem tokens_extended (hs : Sigil c.sigil) {s : String} {ts : List Token}
    (h : (Registry.default c).tokens s = .ok ts) : (Registry.extended c).tokens s = .ok ts := by
  simp only [Registry.tokens, lexemes_default, lexemes_extended] at h ⊢
  cases hscan : scan c.sigil defaultSymbols s.toList with
  | error e =>
    rw [hscan] at h
    cases h
  | ok ls =>
    rw [hscan] at h
    replace h : (Registry.default c).resolveAll [] (ls.map .ofList) = .ok ts := h
    have hl : ∀ l ∈ ls.map String.ofList, l ∉ Comparison.words := by
      obtain ⟨us, -, htokens⟩ | ⟨i, l, -, herror⟩ := resolveAll_cases hs [] (ls.map .ofList)
      · intro l hm
        obtain ⟨i, hi⟩ := List.mem_iff_getElem?.1 hm
        exact not_mem_words hs (htokens.known hi)
      · rw [herror] at h
        cases h
    rw [scan_extended hscan fun l hm => hl _ (List.mem_map_of_mem hm)]
    exact (resolveAll_extended hl).trans h

theorem compile_extended (hs : Sigil c.sigil) {maxDepth : Nat} {s : String} {e : Expression}
    (h : Expression.compile (Registry.default c) maxDepth s = .ok e) :
    Expression.compile (Registry.extended c) maxDepth s = .ok e := by
  simp only [Expression.compile] at h ⊢
  cases ht : (Registry.default c).tokens s with
  | error e =>
    rw [ht] at h
    cases h
  | ok ts =>
    rw [ht] at h
    rw [tokens_extended hs ht]
    exact h

end

namespace Bindings

variable {α : Type} {name : String} {value : α} {entries : List (String × α)}

def Sorted (entries : List (String × α)) : Prop := entries.Pairwise (·.1 < ·.1)

theorem sorted_put (h : Sorted entries) : Sorted (put name value entries) := by
  induction entries with
  | nil => exact List.pairwise_singleton _ _
  | cons e rest ih =>
    obtain ⟨k, v⟩ := e
    obtain ⟨hk, hrest⟩ := List.pairwise_cons.1 h
    simp only [put]
    split_ifs with he hl
    · subst he
      exact List.pairwise_cons.2 ⟨hk, hrest⟩
    · refine List.pairwise_cons.2 ⟨fun e hm => ?_, h⟩
      rcases List.mem_cons.1 hm with rfl | hm
      · exact hl
      · exact String.lt_trans hl (hk e hm)
    · refine List.pairwise_cons.2 ⟨fun e hm => ?_, ih hrest⟩
      rcases mem_put hm with rfl | hm
      · exact Decidable.byContradiction fun hn =>
          he (String.le_antisymm (String.not_lt.1 hl) (String.not_lt.1 hn))
      · exact hk e hm

theorem put_of_mem (h : Sorted entries) (hm : (name, value) ∈ entries) :
    put name value entries = entries := by
  induction entries with
  | nil => cases hm
  | cons e rest ih =>
    obtain ⟨k, v⟩ := e
    obtain ⟨hk, hrest⟩ := List.pairwise_cons.1 h
    rcases List.mem_cons.1 hm with he | hm
    · cases he
      rw [put, if_pos rfl]
    · have hlt : k < name := hk _ hm
      rw [put, if_neg (String.ne_of_lt hlt), if_neg (String.lt_asymm hlt), ih hrest hm]

theorem set_of_get? {b : Bindings α} (h : Sorted b.entries) (hv : b.get? name = some value) :
    b.set name value = b :=
  congrArg Bindings.mk (put_of_mem h (mem_of_find? hv))

end Bindings

theorem sorted_insertAll {r : Registry} (h : Bindings.Sorted r.functions.entries)
    (gs : List Registration) : Bindings.Sorted (r.insertAll gs).functions.entries := by
  induction gs generalizing r with
  | nil => exact h
  | cons g gs ih =>
    refine ih ?_
    cases g with
    | token name matcher build => exact h
    | operator name matcher o => exact h
    | function name minimum variadic call => exact Bindings.sorted_put h

theorem insertAll_of_forall {r : Registry} {gs : List Registration}
    (h : ∀ g ∈ gs, r.insert g = r) : r.insertAll gs = r := by
  induction gs with
  | nil => rfl
  | cons g gs ih =>
    obtain ⟨hg, hgs⟩ := List.forall_mem_cons.1 h
    rw [Registry.insertAll_cons, hg]
    exact ih hgs

theorem ruleNames_extended (c : Config) : (Registry.extended c).ruleNames =
    ["ne", "eq", "le", "lt", "ge", "gt", "unary_minus", "power", "divide", "multiply", "minus",
      "plus", "number", "string", "variable", "left_bracket", "right_bracket", "comma"] := by
  rw [Registry.ruleNames, rules_extended, rules_default]
  rfl

theorem extended_insertAll (c : Config) :
    (Registry.extended c).insertAll Comparison.registrations = Registry.extended c := by
  have hnames : (Registry.extended c).ruleNames.Nodup := by
    rw [ruleNames_extended]
    decide
  have hbasic : Bindings.Sorted (Registry.basic c.sigil).functions.entries := .nil
  have hsorted : Bindings.Sorted (Registry.extended c).functions.entries :=
    sorted_insertAll (sorted_insertAll hbasic _) _
  have hrule (condition : Comparison.Condition) :
      Comparison.conditionRule condition ∈ (Registry.extended c).rules := by
    rw [rules_extended]
    refine List.mem_append_left _ (List.mem_map_of_mem ?_)
    cases condition <;> decide
  have hcompare : (Registry.extended c).functions.get? "compare" =
      some (callable "compare" 2 true Comparison.compare) := by
    rw [functions_extended, Bindings.get?_set, Bindings.get?_set]
    rfl
  have hchoose : (Registry.extended c).functions.get? "if" =
      some (callable "if" 3 false Comparison.choose) := by
    rw [functions_extended, Bindings.get?_set]
    rfl
  refine insertAll_of_forall ?_
  simp only [Comparison.registrations, List.forall_mem_append, List.forall_mem_map,
    List.forall_mem_cons]
  refine ⟨fun condition _ => ?_, ?_, ?_, List.forall_mem_nil _⟩
  · have hplace := place_of_mem hnames (hrule condition) true
    simp only [Registry.insert]
    rw [← Comparison.conditionRule, hplace]
  · rw [Registry.insert, Bindings.set_of_get? hsorted hcompare]
  · rw [Registry.insert, Bindings.set_of_get? hsorted hchoose]

/-- The comparisons change nothing in the default language, and can be brought again. -/
theorem comparisons_conservative {c : Config} (hc : c.validate = .ok ()) :
    ∃ extended, (Registry.default c).registerAll Comparison.registrations =
        (.ok (), extended, Comparison.registrations) ∧
      (∀ s ts, (Registry.default c).tokens s = .ok ts → extended.tokens s = .ok ts) ∧
      (∀ maxDepth s e, Expression.compile (Registry.default c) maxDepth s = .ok e →
        Expression.compile extended maxDepth s = .ok e) ∧
      (∀ calculator : Calculator, calculator.registry = .default c → calculator.CacheSound →
        calculator.loadExtra.answer = .ok () ∧
          calculator.loadExtra.calculator.registry = extended ∧
          ∀ s e, calculator.compile s = .ok e →
            calculator.loadExtra.calculator.tracedValue s = calculator.tracedValue s ∧
              calculator.loadExtra.calculator.tracedNumber s = calculator.tracedNumber s) ∧
      extended.registerAll Comparison.registrations =
        (.ok (), extended, Comparison.registrations) := by
  have hs := Config.sigil_of_validate hc
  have hfrozen (c : Config) : (Registry.default c).frozen = false := Registry.insertAll_frozen _ _
  have hinstall : (Registry.default c).registerAll Comparison.registrations =
      (.ok (), Registry.extended c, Comparison.registrations) :=
    Registry.registerAll_checked (hfrozen c) Comparison.check_registrations
  refine ⟨Registry.extended c, hinstall, fun s ts => tokens_extended hs,
    fun maxDepth s e => compile_extended hs, fun k hk hsound => ?_, ?_⟩
  · have hload : k.loadExtra.calculator = { k with registry := .extended c, cache := {} } := by
      simp only [Calculator.loadExtra, hk, hinstall]
    have hvalue {s : String} {e : Expression} (he : k.compile s = .ok e) :
        k.loadExtra.calculator.tracedValue s = k.tracedValue s := by
      have hcompile : k.loadExtra.calculator.compile s = .ok e := by
        rw [Calculator.compile, hk] at he
        rw [Calculator.compile, hload]
        exact compile_extended hs he
      rw [Calculator.tracedValue_eq hsound, Calculator.tracedValue_eq, hcompile, he, hload]
      rw [hload]
      exact Calculator.cacheSound_empty rfl
    refine ⟨?_, by rw [hload], fun s e he => ⟨hvalue he, ?_⟩⟩
    · simp only [Calculator.loadExtra, hk, hinstall]
    · rw [Calculator.tracedNumber_eq, Calculator.tracedNumber_eq, hvalue he]
  · have hagain : (Registry.extended c).frozen = false :=
      (Registry.insertAll_frozen _ _).trans (hfrozen c)
    rw [Registry.registerAll_checked hagain Comparison.check_registrations, extended_insertAll]

/-- Where the sigil is a less sign, a name after it is no comparison. -/
theorem comparisons_conservative_less : ({ sigil := '<' } : Config).validate = .ok () ∧
    ∃ calculator, Calculator.standard { sigil := '<' } = .ok calculator ∧
      calculator.compile "-<x" = .ok ⟨[.var "x", .operator Builtin.negation]⟩ ∧
      calculator.loadExtra.calculator.compile "-<x" =
        .ok ⟨[.var "x", .operator Builtin.negation]⟩ ∧
      calculator.loadExtra.calculator.tracedValue "-<x" = calculator.tracedValue "-<x" := by
  let config : Config := { sigil := '<' }
  let calculator := Calculator.build config (.default config)
  have hc : config.validate = .ok () := by decide
  have hlexemes : (Registry.default config).lexemes "-<x" = .ok ["-", "<x"] := by
    rw [lexemes_default, scan_cons rfl rfl (scan_cons rfl rfl (scan_nil rfl))]
    rfl
  have hminus : (Registry.default config).resolve "-" [] false =
      .ok (.operator Builtin.negation) := resolve_sign .minus
  have hvar : (Registry.default config).resolve "<x" [.operator Builtin.negation] false =
      .ok (.var "x") := by
    have hlexeme : "<x" = .ofList ('<' :: "x".toList) := by decide
    rw [hlexeme]
    exact resolve_reference (Config.sigil_of_validate hc) (by decide)
  have htokens : (Registry.default config).tokens "-<x" =
      .ok [.operator Builtin.negation, .var "x"] := by
    simp only [Registry.tokens, hlexemes]
    exact resolveAll_cons hminus (resolveAll_cons hvar rfl)
  have hcompile : Expression.compile (Registry.default config) config.maxDepth "-<x" =
      .ok ⟨[.var "x", .operator Builtin.negation]⟩ := by
    rw [Expression.compile, htokens]
    rfl
  obtain ⟨extended, -, -, hconservative, hcalculator, -⟩ := comparisons_conservative hc
  obtain ⟨-, hregistry, hvalue⟩ :=
    hcalculator calculator rfl (Calculator.cacheSound_empty rfl)
  have hextended : calculator.loadExtra.calculator.compile "-<x" =
      .ok ⟨[.var "x", .operator Builtin.negation]⟩ := by
    rw [Calculator.compile, hregistry]
    exact hconservative _ _ _ hcompile
  exact ⟨hc, calculator, rfl, hcompile, hextended, (hvalue "-<x" _ hcompile).1⟩

end Reckoner
