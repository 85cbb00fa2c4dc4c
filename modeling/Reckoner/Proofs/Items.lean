import Reckoner.Proofs.CharacterClasses
import Reckoner.Proofs.Language
import Reckoner.Proofs.Numerals

set_option autoImplicit false

namespace Reckoner

def Sign.operatorOf (strict : Bool) : Sign → Operator
  | plus => Builtin.plus
  | minus => Builtin.minus
  | times => Builtin.times
  | divide => Builtin.quotient strict
  | power => Builtin.power

def dueAfter : Option Token → Bool
  | none | some (.operator _) | some .leftBracket | some .comma => true
  | some _ => false

theorem startsExpression_eq (preceding : List Token) :
    startsExpression preceding = dueAfter preceding.head? := by
  rcases preceding with _ | ⟨t, ts⟩
  · rfl
  · cases t <;> rfl

inductive Item where
  | number (n : Number.Numeral) : n.Proper Char.isDigit → Item
  | text (s : String) : '"' ∉ s.toList → Item
  | var (name : String) : Text.isIdentifier name.toList = true → Item
  | opening | closing | comma
  | sign (o : Sign)
  | function (f : FunctionName)

namespace Item

def lexeme (sigil : Char) : Item → String
  | number n _ => .ofList n.text
  | text s _ => .ofList ('"' :: (s.toList ++ ['"']))
  | var name _ => .ofList (sigil :: name.toList)
  | opening => "("
  | closing => ")"
  | comma => ","
  | sign o => o.lexeme
  | function f => f.name

def token (strict : Bool) (previous : Option Token) : Item → Token
  | number n _ => .number n.value
  | text s _ => .text s
  | var name _ => .var name
  | opening => .leftBracket
  | closing => .rightBracket
  | comma => .comma
  | sign o =>
    if o = .minus ∧ dueAfter previous = true then .operator Builtin.negation
    else .operator (o.operatorOf strict)
  | function f => .function f.callable

/-- The name of a function is one only where a left bracket comes next. -/
def Fits (next : Option String) : Item → Prop
  | function _ => next = some "("
  | _ => True

end Item

/-- The lexeme is an item of the language, given the lexeme after it. -/
def Known (sigil : Char) (l : String) (next : Option String) : Prop :=
  ∃ i : Item, i.lexeme sigil = l ∧ i.Fits next

def refusal (l : String) (next : Option String) : Error :=
  if Text.isIdentifier l.toList = true ∧ next = some "(" then .unknownFunction l
  else .unknownToken l

section

variable {c : Config} {l : String} {preceding : List Token} {called : Bool}

theorem rules_default (c : Config) : (Registry.default c).rules = [
    ⟨"unary_minus", .context Builtin.isNegation, fun _ => .ok (.operator Builtin.negation)⟩,
    ⟨"power", .literal "^", fun _ => .ok (.operator Builtin.power)⟩,
    ⟨"divide", .literal "/", fun _ => .ok (.operator (Builtin.quotient c.strictDivision))⟩,
    ⟨"multiply", .literal "*", fun _ => .ok (.operator Builtin.times)⟩,
    ⟨"minus", .literal "-", fun _ => .ok (.operator Builtin.minus)⟩,
    ⟨"plus", .literal "+", fun _ => .ok (.operator Builtin.plus)⟩,
    ⟨"number", .numeral, Registry.buildNumber⟩,
    ⟨"string", .quoted, Registry.buildText⟩,
    ⟨"variable", .reference c.sigil, Registry.buildVariable⟩,
    ⟨"left_bracket", .literal "(", fun _ => .ok .leftBracket⟩,
    ⟨"right_bracket", .literal ")", fun _ => .ok .rightBracket⟩,
    ⟨"comma", .literal ",", fun _ => .ok .comma⟩] := by
  simp [Registry.default, Registry.insertAll, Builtin.operators, Builtin.functions,
    Builtin.unaryFunctions, Registry.insert, place, Registry.basic]

theorem functions_default (c : Config) :
    (Registry.default c).functions = (Registry.default {}).functions := by
  simp [Registry.default, Registry.insertAll, Builtin.operators, Builtin.functions,
    Builtin.unaryFunctions, Registry.insert, Registry.basic]

theorem function?_default (c : Config) (name : String) :
    (Registry.default c).function? name = (Registry.default {}).function? name := by
  rw [Registry.function?, functions_default, Registry.function?]

def functionNames : List String :=
  ["acos", "asin", "atn", "avg", "cos", "max", "min", "sin", "tn"]

theorem mem_functionNames {name : String} {f : Callable}
    (h : (Registry.default c).function? name = some f) : name ∈ functionNames := by
  rw [function?_default] at h
  have hm := Language.mem_names_of_find? h
  rwa [Language.functionNames] at hm

theorem resolve_functionName (f : FunctionName) :
    (Registry.default c).resolve f.name preceding true = .ok (.function f.callable) := by
  have hf : (Registry.default c).function? f.name = some f.callable := by
    rw [function?_default, f.found]
  simp [Registry.resolve, Registry.resolveFunction, hf]

theorem resolve_of_rule (rule : Rule) (hl : l ∉ functionNames)
    (h : (Registry.default c).rules.find? (·.matcher.accepts l preceding) = some rule) :
    (Registry.default c).resolve l preceding called = rule.build l := by
  have hf : (Registry.default c).function? l = none := by
    cases hf : (Registry.default c).function? l with
    | none => rfl
    | some f => exact absurd (mem_functionNames hf) hl
  simp [Registry.resolve, hf, h]

theorem not_mem_of_test {names : List String} (p : List Char → Bool) (hl : p l.toList = true)
    (hs : ∀ s ∈ names, p s.toList = false) : l ∉ names := by
  intro hm
  rw [hs l hm] at hl
  cases hl

def signs : List String := ["^", "/", "*", "-", "+"]

theorem resolve_of_test (rule : Rule) (p : List Char → Bool) (hl : p l.toList = true)
    (hs : ∀ s ∈ functionNames ++ signs, p s.toList = false)
    (h : ((Registry.default c).rules.drop 6).find? (·.matcher.accepts l preceding) = some rule) :
    (Registry.default c).resolve l preceding called = rule.build l := by
  obtain ⟨hnames, hsigns⟩ := List.forall_mem_append.1 hs
  refine resolve_of_rule rule (not_mem_of_test p hl hnames) ?_
  have hne : ∀ s ∈ signs, s ≠ l := by
    rintro s hm rfl
    exact not_mem_of_test p hl hsigns hm
  simp only [signs, List.forall_mem_cons] at hne
  obtain ⟨hpower, hdivide, htimes, hminus, hplus, -⟩ := hne
  rw [rules_default] at h ⊢
  simpa [Matcher.accepts, Builtin.isNegation, hpower, hdivide, htimes, hminus, hminus.symm,
    hplus] using h

theorem resolve_numeral {n : Number.Numeral} (h : n.Proper Char.isDigit) :
    (Registry.default c).resolve (.ofList n.text) preceding called = .ok (.number n.value) := by
  have hn : Number.isNumeral Char.isDigit n.text = true :=
    (Number.isNumeral_iff Number.apart_isDigit).2 ⟨n, h, rfl⟩
  have hread : Registry.buildNumber (.ofList n.text) = .ok (.number n.value) := by
    simp [Registry.buildNumber, Number.read?_text h]
  rw [← hread]
  refine resolve_of_test ⟨"number", .numeral, Registry.buildNumber⟩
    (Number.isNumeral Char.isDigit) (by rwa [String.toList_ofList]) (by decide) ?_
  simp [rules_default, Matcher.accepts, Number.isNumeral_isDecimalDigit hn]

theorem not_numeral {d : Char} {cs : List Char} (hd : Text.isDecimalDigit d = false)
    (hp : d ≠ '.') : Number.isNumeral Text.isDecimalDigit (d :: cs) = false := by
  cases h : Number.isNumeral Text.isDecimalDigit (d :: cs) with
  | false => rfl
  | true =>
    rcases Number.isNumeral_cons h with h | h
    · rw [h] at hd
      cases hd
    · exact absurd h hp

theorem resolve_quoted {s : String} (h : '"' ∉ s.toList) :
    (Registry.default c).resolve (.ofList ('"' :: (s.toList ++ ['"']))) preceding called =
      .ok (.text s) := by
  have hq : isQuotedText ('"' :: (s.toList ++ ['"'])) = true := isQuotedText_iff.2 ⟨_, h, rfl⟩
  have hn : Number.isNumeral Text.isDecimalDigit ('"' :: (s.toList ++ ['"'])) = false :=
    not_numeral rfl (by decide)
  have hread : Registry.buildText (.ofList ('"' :: (s.toList ++ ['"']))) = .ok (.text s) := by
    simp [Registry.buildText]
  rw [← hread]
  refine resolve_of_test ⟨"string", .quoted, Registry.buildText⟩ isQuotedText
    (by rwa [String.toList_ofList]) (by decide) ?_
  simp [rules_default, Matcher.accepts, hn, hq]

theorem not_reference {sigil d : Char} {cs : List Char} (h : d ≠ sigil) :
    isReference sigil (d :: cs) = false := by
  simp [isReference, h]

theorem resolve_reference (hs : Sigil c.sigil) {name : String}
    (h : Text.isIdentifier name.toList = true) :
    (Registry.default c).resolve (.ofList (c.sigil :: name.toList)) preceding called =
      .ok (.var name) := by
  have hr : isReference c.sigil (c.sigil :: name.toList) = true := isReference_iff.2 ⟨_, h, rfl⟩
  have hn : Number.isNumeral Text.isDecimalDigit (c.sigil :: name.toList) = false :=
    not_numeral hs.notDigit hs.notMark.1
  have hq : isQuotedText (c.sigil :: name.toList) = false := by
    simp [isQuotedText, hs.notMark.2]
  have hothers : ∀ s ∈ functionNames ++ signs, isReference c.sigil s.toList = false := by
    -- A name of a function begins as an identifier does, and a sign has no name after it.
    have hstart : ∀ s ∈ functionNames, s.toList.head?.all Text.isIdentifierStart = true := by decide
    refine List.forall_mem_append.2
      ⟨fun s hm => ?_, by simp [signs, isReference, Text.isIdentifier]⟩
    cases hcs : s.toList with
    | nil => rfl
    | cons d cs =>
      refine not_reference ?_
      rintro rfl
      have hd := hstart s hm
      rw [hcs, List.head?_cons, Option.all_some, hs.notStart] at hd
      cases hd
  have hread : Registry.buildVariable (.ofList (c.sigil :: name.toList)) = .ok (.var name) := by
    simp [Registry.buildVariable]
  rw [← hread]
  refine resolve_of_test ⟨"variable", .reference c.sigil, Registry.buildVariable⟩
    (isReference c.sigil) (by rwa [String.toList_ofList]) hothers ?_
  simp [rules_default, Matcher.accepts, hn, hq, hr]

theorem resolve_sign (o : Sign) :
    (Registry.default c).resolve o.lexeme preceding called =
      .ok ((Item.sign o).token c.strictDivision preceding.head?) := by
  have hname : o.lexeme ∉ functionNames := by cases o <;> decide
  by_cases hn : o = .minus ∧ dueAfter preceding.head? = true
  · obtain ⟨rfl, hdue⟩ := hn
    have hneg : Builtin.isNegation "-" preceding = true := by
      rw [Builtin.isNegation, startsExpression_eq, hdue]
      rfl
    have hfind : (Registry.default c).rules.find? (·.matcher.accepts Sign.minus.lexeme preceding) =
        some ⟨"unary_minus", .context Builtin.isNegation,
          fun _ => .ok (.operator Builtin.negation)⟩ := by
      simp [rules_default, Matcher.accepts, Sign.lexeme, hneg]
    rw [resolve_of_rule _ hname hfind]
    simp [Item.token, hdue]
  · have hneg : Builtin.isNegation o.lexeme preceding = false := by
      rw [Builtin.isNegation, startsExpression_eq]
      cases o <;> simp_all [Sign.lexeme]
    have hfind : ∃ rule : Rule,
        (Registry.default c).rules.find? (·.matcher.accepts o.lexeme preceding) = some rule ∧
          rule.build o.lexeme = .ok (.operator (o.operatorOf c.strictDivision)) := by
      simp only [rules_default, List.find?_cons, Matcher.accepts, hneg]
      cases o <;> exact ⟨_, rfl, rfl⟩
    obtain ⟨rule, hrule, hbuild⟩ := hfind
    rw [resolve_of_rule _ hname hrule, hbuild]
    simp only [Item.token, if_neg hn]

theorem resolve_mark (rule : Rule) (hl : l ∈ ["(", ")", ","])
    (h : ((Registry.default c).rules.drop 9).find? (·.matcher.accepts l preceding) = some rule) :
    (Registry.default c).resolve l preceding called = rule.build l := by
  have hothers : ∀ l ∈ ["(", ")", ","], ∀ s ∈ functionNames ++ signs,
      (s.toList == l.toList) = false := by decide
  have hn : ∀ l ∈ ["(", ")", ","], Number.isNumeral Text.isDecimalDigit l.toList = false := by
    decide
  have hq : ∀ l ∈ ["(", ")", ","], isQuotedText l.toList = false := by decide
  have hr : ∀ l ∈ ["(", ")", ","], isReference c.sigil l.toList = false := by
    simp [isReference, Text.isIdentifier]
  refine resolve_of_test rule (fun cs => cs == l.toList) (by simp) (hothers l hl) ?_
  rw [rules_default] at h ⊢
  simpa [Matcher.accepts, hn l hl, hq l hl, hr l hl] using h

theorem resolve_item (hs : Sigil c.sigil) (i : Item) {next : Option String} (hf : i.Fits next)
    (preceding : List Token) :
    (Registry.default c).resolve (i.lexeme c.sigil) preceding (next == some "(") =
      .ok (i.token c.strictDivision preceding.head?) := by
  cases i with
  | number n h => exact resolve_numeral h
  | text s h => exact resolve_quoted h
  | var name h => exact resolve_reference hs h
  | opening =>
    exact resolve_mark ⟨"left_bracket", .literal "(", fun _ => .ok .leftBracket⟩
      (by simp [Item.lexeme]) (by simp [rules_default, Matcher.accepts, Item.lexeme])
  | closing =>
    exact resolve_mark ⟨"right_bracket", .literal ")", fun _ => .ok .rightBracket⟩
      (by simp [Item.lexeme]) (by simp [rules_default, Matcher.accepts, Item.lexeme])
  | comma =>
    exact resolve_mark ⟨"comma", .literal ",", fun _ => .ok .comma⟩
      (by simp [Item.lexeme]) (by simp [rules_default, Matcher.accepts, Item.lexeme])
  | sign o => exact resolve_sign o
  | function f =>
    cases hf
    exact resolve_functionName f

/-- What the rules accept is an item, or a numeral in which some digit is not an ASCII one. -/
theorem known_of_accepts {rule : Rule} (hr : rule ∈ (Registry.default c).rules)
    (ha : rule.matcher.accepts l preceding = true) (next : Option String) :
    Known c.sigil l next ∨ rule.build l = .error (.unknownToken l) ∧
      Number.isNumeral Text.isDecimalDigit l.toList = true := by
  have hsign (o : Sign) (h : o.lexeme = l) : Known c.sigil l next := ⟨.sign o, h, trivial⟩
  rw [rules_default] at hr
  simp only [List.mem_cons, List.not_mem_nil, or_false] at hr
  rcases hr with rfl | rfl | rfl | rfl | rfl | rfl | rfl | rfl | rfl | rfl | rfl | rfl
  · simp only [Matcher.accepts, Builtin.isNegation, Bool.and_eq_true, beq_iff_eq] at ha
    exact .inl (hsign .minus ha.1.symm)
  · exact .inl (hsign .power (beq_iff_eq.1 ha))
  · exact .inl (hsign .divide (beq_iff_eq.1 ha))
  · exact .inl (hsign .times (beq_iff_eq.1 ha))
  · exact .inl (hsign .minus (beq_iff_eq.1 ha))
  · exact .inl (hsign .plus (beq_iff_eq.1 ha))
  · by_cases hn : Number.isNumeral Char.isDigit l.toList = true
    · obtain ⟨n, hn, ht⟩ := (Number.isNumeral_iff Number.apart_isDigit).1 hn
      exact .inl ⟨.number n hn, by rw [Item.lexeme, ht, String.ofList_toList], trivial⟩
    · refine .inr ⟨?_, ha⟩
      simp [Registry.buildNumber, Number.read?, hn]
  · obtain ⟨text, hm, ht⟩ := isQuotedText_iff.1 ha
    refine .inl ⟨.text (.ofList text) (by rwa [String.toList_ofList]), ?_, trivial⟩
    rw [Item.lexeme, String.toList_ofList, ← ht, String.ofList_toList]
  · obtain ⟨name, hi, ht⟩ := isReference_iff.1 ha
    refine .inl ⟨.var (.ofList name) (by rwa [String.toList_ofList]), ?_, trivial⟩
    rw [Item.lexeme, String.toList_ofList, ← ht, String.ofList_toList]
  · exact .inl ⟨.opening, beq_iff_eq.1 ha, trivial⟩
  · exact .inl ⟨.closing, beq_iff_eq.1 ha, trivial⟩
  · exact .inl ⟨.comma, beq_iff_eq.1 ha, trivial⟩

theorem not_isIdentifier_of_isNumeral {cs : List Char}
    (h : Number.isNumeral Text.isDecimalDigit cs = true) : Text.isIdentifier cs = false := by
  cases cs with
  | nil => rfl
  | cons d cs =>
    cases hs : Text.isIdentifierStart d with
    | false => rw [Text.isIdentifier, hs, Bool.false_and]
    | true =>
      have hd := Text.not_isDecimalDigit_of_isIdentifierStart hs
      rw [not_numeral hd (by rintro rfl; cases hs)] at h
      cases h

theorem resolve_unknown {next : Option String} (h : ¬ Known c.sigil l next)
    (preceding : List Token) :
    (Registry.default c).resolve l preceding (next == some "(") = .error (refusal l next) := by
  have hcall : ((next == some "(") && ((Registry.default c).function? l).isSome) = false := by
    by_cases hnext : next = some "("
    · cases hf : (Registry.default c).function? l with
      | none => simp
      | some f =>
        rw [function?_default] at hf
        exact absurd ⟨.function ⟨l, f, hf⟩, rfl, hnext⟩ h
    · simp [hnext]
  simp only [Registry.resolve, hcall, Bool.false_eq_true, if_false]
  cases hrule : (Registry.default c).rules.find? (·.matcher.accepts l preceding) with
  | some rule =>
    have hr := List.mem_of_find?_eq_some hrule
    have ha := List.find?_some hrule
    obtain hk | ⟨hb, hn⟩ := known_of_accepts hr ha next
    · exact absurd hk h
    · simp [hb, refusal, not_isIdentifier_of_isNumeral hn]
  | none =>
    by_cases hnext : next = some "("
    · subst hnext
      have hf : (Registry.default c).function? l = none := by simpa using hcall
      by_cases hi : Text.isIdentifier l.toList = true
      · simp [hi, refusal, Registry.resolveFunction, hf]
      · simp [hi, refusal]
    · simp [hnext, refusal]

end

end Reckoner
