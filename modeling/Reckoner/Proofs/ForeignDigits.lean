import Reckoner.Proofs.Unmentioned

/-! Numerals over the digits of every script. The rule for numbers accepts all of them and builds
tokens of those over the ASCII digits only, which are the literals. A numeral with another digit in
it is refused, though a later rule would accept it, and what is no numeral goes to the later rules.
Of the lexemes of a text these are the single digits of other scripts, since splitting knows the
ASCII ones alone.
-/

set_option autoImplicit false

namespace Reckoner

def IsForeignDigit (c : Char) : Prop := Text.isDecimalDigit c = true ∧ c.isDigit = false

/-- The form `D+ (. D*)?` or `. D+`, and perhaps an exponent, over the digits of every script and
with a foreign one among them. -/
def IsForeign (cs : List Char) : Prop :=
  ∃ n : Number.Numeral, n.Proper Text.isDecimalDigit ∧ n.text = cs ∧ ∃ c ∈ cs, IsForeignDigit c

def numberRule : Rule := ⟨"number", .numeral, Registry.buildNumber⟩

section

variable {cs l after : List Char} {c sigil : Char} {symbols : List String}

theorem isLiteral_iff : IsLiteral cs ↔ Number.isNumeral Char.isDigit cs = true :=
  (Number.isNumeral_iff Number.apart_isDigit).symm

theorem IsLiteral.not_foreignDigit (h : IsLiteral cs) : ∀ c ∈ cs, ¬ IsForeignDigit c := by
  rintro c hc ⟨hdecimal, hdigit⟩
  have hpart := Number.isNumeral_parts (isLiteral_iff.1 h) c hc
  rw [Number.isNumeralPart, hdigit, Bool.false_or] at hpart
  rw [Number.apart_isDecimalDigit c hpart] at hdecimal
  cases hdecimal

theorem IsForeign.not_isLiteral (h : IsForeign cs) : ¬ IsLiteral cs := by
  obtain ⟨n, -, -, c, hc, hforeign⟩ := h
  exact fun hl => hl.not_foreignDigit c hc hforeign

theorem isNumeral_iff_literal : Number.isNumeral Text.isDecimalDigit cs = true ↔
    IsLiteral cs ∨ IsForeign cs := by
  constructor
  · intro h
    by_cases hforeign : ∃ c ∈ cs, IsForeignDigit c
    · obtain ⟨n, hn, htext⟩ := (Number.isNumeral_iff Number.apart_isDecimalDigit).1 h
      exact .inr ⟨n, hn, htext, hforeign⟩
    · have hsame : ∀ c ∈ cs, c.isDigit = Text.isDecimalDigit c := by
        intro c hc
        cases hd : c.isDigit with
        | true => exact (Text.isDecimalDigit_of_isDigit hd).symm
        | false =>
          cases hdecimal : Text.isDecimalDigit c with
          | false => rfl
          | true => exact absurd ⟨c, hc, hdecimal, hd⟩ hforeign
      rw [isLiteral_iff, Number.isNumeral, Number.take_congr hsame]
      exact .inl h
  · rintro (h | ⟨n, hn, htext, -⟩)
    · exact Number.isNumeral_isDecimalDigit (isLiteral_iff.1 h)
    · exact (Number.isNumeral_iff Number.apart_isDecimalDigit).2 ⟨n, hn, htext⟩

theorem isForeign_singleton (h : IsForeignDigit c) : IsForeign [c] :=
  ⟨⟨[c], none, none⟩, Number.Numeral.proper_digit h.1, rfl, c, List.mem_singleton_self c, h⟩

/-- A lexeme with a foreign digit in it is this digit. -/
theorem Leads.foreign (ht : SymbolTable symbols) (hs : Sigil sigil)
    (h : Leads sigil (· ∈ symbols) c after l) (hl : IsForeign l) :
    ∃ d, IsForeignDigit d ∧ l = [d] := by
  have hn : Number.isNumeral Text.isDecimalDigit l = true := isNumeral_iff_literal.2 (.inr hl)
  cases h with
  | numeral hshape hlongest => exact absurd hlongest.mem hl.not_isLiteral
  | identifier hshape hlongest =>
    have hname : Text.isIdentifier l = true := hlongest.mem
    rw [not_isIdentifier_of_isNumeral hn] at hname
    cases hname
  | reference hshape hlongest =>
    rw [(shape_reference hshape).1, not_numeral hs.notDigit hs.notMark.1] at hn
    cases hn
  | quotation hshape hq hafter =>
    rw [shape_quotation hshape, not_numeral rfl (by decide)] at hn
    cases hn
  | symbol hshape hlongest =>
    -- The foreign digit is a character of words.
    obtain ⟨n, -, -, d, hd, hforeign⟩ := hl
    have hword := ht.wordless _ hlongest.mem d (by rwa [String.toList_ofList])
    rw [isWordPart, Text.isAlphanumeric_of_isDecimalDigit hforeign.1, Bool.or_true] at hword
    cases hword
  | single =>
    obtain ⟨n, -, -, d, hd, hforeign⟩ := hl
    exact ⟨d, hforeign, by rw [List.mem_singleton.1 hd]⟩

theorem Splits.leads {IsSymbol : String → Prop} {ls : List String}
    (h : Splits sigil IsSymbol cs (.ok ls)) :
    ∀ l ∈ ls, ∃ c after, Leads sigil IsSymbol c after l.toList := by
  generalize hok : Except.ok ls = answer at h
  induction h generalizing ls with
  | blank =>
    cases hok
    exact List.forall_mem_nil _
  | @lexeme w after l rest c _ hw hc hl hparts _ ih =>
    obtain ⟨ls, rfl, rfl⟩ := ok_lexeme hok.symm
    rw [← String.toList_ofList (l := l)] at hl
    exact List.forall_mem_cons.2 ⟨⟨c, after, hl⟩, ih rfl⟩
  | unclosed => cases hok

end

namespace Registry

variable {r : Registry} {l : String} {preceding : List Token} {called : Bool}
  {before after : List Rule}

theorem buildNumber_literal {n : Number.Numeral} (hn : n.Proper Char.isDigit)
    (hl : n.text = l.toList) : buildNumber l = .ok (.number n.value) := by
  rw [buildNumber, ← hl, Number.read?_text hn]

theorem buildNumber_other (h : ¬ IsLiteral l.toList) :
    buildNumber l = .error (.unknownToken l) := by
  rw [isLiteral_iff] at h
  rw [buildNumber, Number.read?, if_neg h]

theorem Reachable.function?_numeral (h : r.Reachable)
    (hl : Number.isNumeral Text.isDecimalDigit l.toList = true) : r.function? l = none := by
  cases hf : r.function? l with
  | none => rfl
  | some f =>
    have hname := (h.wellFormed.keys _ (Bindings.mem_of_find? hf)).1
    rw [not_isIdentifier_of_isNumeral hl] at hname
    cases hname

/-- Where no rule before it accepts, the number rule takes the numerals and passes on all else. -/
theorem find?_numberRule (hr : r.rules = before ++ numberRule :: after)
    (hb : ∀ rule ∈ before, rule.matcher.accepts l preceding = false) :
    r.rules.find? (·.matcher.accepts l preceding) =
      if Number.isNumeral Text.isDecimalDigit l.toList then some numberRule
      else after.find? (·.matcher.accepts l preceding) := by
  have hnone : before.find? (·.matcher.accepts l preceding) = none := by simpa using hb
  have hnumber : numberRule.matcher.accepts l preceding =
      Number.isNumeral Text.isDecimalDigit l.toList := rfl
  rw [hr, List.find?_append, hnone, Option.none_or, List.find?_cons, hnumber]
  cases Number.isNumeral Text.isDecimalDigit l.toList <;> rfl

theorem Reachable.resolve_accepted (h : r.Reachable) (hr : r.rules = before ++ numberRule :: after)
    (hb : ∀ rule ∈ before, rule.matcher.accepts l preceding = false)
    (hl : Number.isNumeral Text.isDecimalDigit l.toList = true) :
    r.resolve l preceding called = buildNumber l := by
  rw [resolve, h.function?_numeral hl, find?_numberRule hr hb, if_pos hl, Option.isSome_none,
    Bool.and_false, if_neg Bool.false_ne_true]
  rfl

theorem resolve_passed (hr : r.rules = before ++ numberRule :: after)
    (hb : ∀ rule ∈ before, rule.matcher.accepts l preceding = false)
    (hl : ¬ Number.isNumeral Text.isDecimalDigit l.toList = true) :
    r.resolve l preceding called = { r with rules := after }.resolve l preceding called := by
  rw [resolve, resolve, find?_numberRule hr hb, if_neg hl]
  rfl

/-- The number rule accepts the literals, which it builds, and the numerals with a foreign digit,
which it refuses whatever rules come after it. All else goes to these rules. A lexeme of a text that
it refuses is a single foreign digit. -/
theorem Reachable.numerals_resolved (h : r.Reachable)
    (hr : r.rules = before ++ numberRule :: after) :
    (∀ l preceding, numberRule.matcher.accepts l preceding = true ↔
      IsLiteral l.toList ∨ IsForeign l.toList) ∧
    (∀ l preceding called, (∀ rule ∈ before, rule.matcher.accepts l preceding = false) →
      (∀ n : Number.Numeral, n.Proper Char.isDigit → n.text = l.toList →
        r.resolve l preceding called = .ok (.number n.value)) ∧
      (IsForeign l.toList → r.resolve l preceding called = .error (.unknownToken l)) ∧
      (¬ IsLiteral l.toList → ¬ IsForeign l.toList →
        r.resolve l preceding called = { r with rules := after }.resolve l preceding called)) ∧
    (Sigil r.sigil → ∀ text ls, r.lexemes text = .ok ls → ∀ l ∈ ls,
      (IsForeign l.toList ↔ ∃ d, IsForeignDigit d ∧ l.toList = [d])) := by
  refine ⟨fun l _ => isNumeral_iff_literal, fun l preceding called hb => ⟨?_, ?_, ?_⟩, ?_⟩
  · intro n hn htext
    have hl := isNumeral_iff_literal.2 (.inl ⟨n, hn, htext⟩)
    rw [h.resolve_accepted hr hb hl, buildNumber_literal hn htext]
  · intro hforeign
    have hl := isNumeral_iff_literal.2 (.inr hforeign)
    rw [h.resolve_accepted hr hb hl, buildNumber_other hforeign.not_isLiteral]
  · intro hliteral hforeign
    refine resolve_passed hr hb ?_
    rw [isNumeral_iff_literal]
    exact not_or.2 ⟨hliteral, hforeign⟩
  · intro hs text ls hls l hl
    constructor
    · obtain ⟨c, rest, hlead⟩ := ((lexemes_iff h).1 hls).leads l hl
      exact hlead.foreign h.symbolTable hs
    · rintro ⟨d, hd, htext⟩
      rw [htext]
      exact isForeign_singleton hd

theorem rules_default_number (c : Config) : (Registry.default c).rules =
    (Registry.default c).rules.take 6 ++ numberRule :: (Registry.default c).rules.drop 7 := by
  rw [rules_default]
  rfl

theorem operators_pass : ∀ rule ∈ (Registry.default {}).rules.take 6,
    rule.matcher.accepts "\u0663" [] = false := by
  simp [rules_default, Matcher.accepts, Builtin.isNegation]

theorem Reachable.tokens_three (h : r.Reachable) (hr : r.rules = before ++ numberRule :: after)
    (hb : ∀ rule ∈ before, rule.matcher.accepts "\u0663" [] = false) :
    r.tokens "\u0663" = .error (.unknownToken "\u0663") := by
  have hdigit : IsForeignDigit '\u0663' := ⟨by decide, by decide⟩
  have hno : ∀ m, m <+: ['\u0663'] → .ofList m ∉ r.symbols := by
    intro m hm hsymbol
    have hword := h.symbolTable.not_word hsymbol (by rwa [String.toList_ofList])
    rw [isWordPart, Text.isAlphanumeric_of_isDecimalDigit hdigit.1, Bool.or_true] at hword
    cases hword
  have hshape : shape r.sigil '\u0663' [] = .symbol := by
    have hstart : startsNumeral '\u0663' [] = false ∧ Text.isIdentifierStart '\u0663' = false := by
      decide
    simp [shape, hstart.1, hstart.2]
  have hlexemes : r.lexemes "\u0663" = .ok ["\u0663"] :=
    (lexemes_iff h).2 (.lexeme (w := []) (List.forall_mem_nil _) (by decide)
      (.single hshape hno) rfl (.blank (List.forall_mem_nil _)))
  have hforeign : IsForeign "\u0663".toList := isForeign_singleton hdigit
  have hresolve : r.resolve "\u0663" [] false = .error (.unknownToken "\u0663") := by
    rw [h.resolve_accepted hr hb (isNumeral_iff_literal.2 (.inr hforeign)),
      buildNumber_other hforeign.not_isLiteral]
  simp only [tokens, hlexemes, resolveAll, List.head?_nil, Option.none_beq_some, hresolve]

/-- A digit of another script is no literal but goes to the number rule, which fails on it, though a
later rule is there for it. -/
theorem literal_shadowed : numberRule.matcher.accepts "\u0663" [] = true ∧
    ¬ IsLiteral "\u0663".toList ∧
    numberRule.build "\u0663" = .error (.unknownToken "\u0663") ∧
    ∃ r, (Registry.default {}).register
        (.token "three" (.literal "\u0663") fun l => .ok (.identifier l)) = .ok r ∧
      r.tokens "\u0663" = .error (.unknownToken "\u0663") := by
  let three : Registration := .token "three" (.literal "\u0663") fun l => .ok (.identifier l)
  have hforeign : IsForeign "\u0663".toList := isForeign_singleton ⟨by decide, by decide⟩
  have hg : (Registry.default {}).register three = .ok ((Registry.default {}).insert three) :=
    register_checked (insertAll_frozen _ _) rfl
  have hrules : ((Registry.default {}).insert three).rules =
      (Registry.default {}).rules.take 6 ++ numberRule :: ((Registry.default {}).rules.drop 7 ++
        [⟨"three", .literal "\u0663", fun l => .ok (.identifier l)⟩]) := by
    simp [insert, place, rules_default, three, numberRule]
  have htokens := ((reachable_default {}).register hg).tokens_three hrules operators_pass
  exact ⟨isNumeral_iff_literal.2 (.inr hforeign), hforeign.not_isLiteral,
    buildNumber_other hforeign.not_isLiteral, _, hg, htokens⟩

theorem numerals_resolved_default : ∃ r, r = Registry.default {} ∧
    r.resolve "1" [] false = .ok (.number (⟨['1'], none, none⟩ : Number.Numeral).value) ∧
    r.resolve "\u0663" [] false = .error (.unknownToken "\u0663") ∧
    r.resolve "," [] false = { r with rules := r.rules.drop 7 }.resolve "," [] false ∧
    ∀ ls, r.lexemes "\u0663" = .ok ls → ∀ l ∈ ls,
      (IsForeign l.toList ↔ ∃ d, IsForeignDigit d ∧ l.toList = [d]) := by
  obtain ⟨-, hresolve, hlexemes⟩ :=
    (reachable_default {}).numerals_resolved (rules_default_number {})
  have hcomma : ¬ IsLiteral ",".toList ∧ ¬ IsForeign ",".toList :=
    not_or.1 (mt isNumeral_iff_literal.2 (by decide))
  have hforeign : IsForeign "\u0663".toList := isForeign_singleton ⟨by decide, by decide⟩
  have hsigil : Sigil (Registry.default {}).sigil := by
    rw [Registry.default, insertAll_sigil]
    exact Config.sigil_of_validate (by decide : ({} : Config).validate = .ok ())
  refine ⟨_, rfl, (hresolve "1" [] false ?_).1 _ ?_ rfl, (hresolve _ [] false ?_).2.1 hforeign,
    (hresolve "," [] false ?_).2.2 hcomma.1 hcomma.2, hlexemes hsigil _⟩
  · simp [rules_default, Matcher.accepts, Builtin.isNegation]
  · exact Number.Numeral.proper_digit rfl
  · exact operators_pass
  · simp [rules_default, Matcher.accepts, Builtin.isNegation]

end Registry

end Reckoner
