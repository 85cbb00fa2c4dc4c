import Reckoner.Proofs.ForeignDigits

set_option autoImplicit false

namespace Reckoner

/-- Texts that are one lexeme where each text of symbol characters is a symbol. -/
inductive IsLexeme (sigil : Char) : List Char → Prop where
  | literal {cs : List Char} : IsLiteral cs → IsLexeme sigil cs
  | name {cs : List Char} : IsName cs → IsLexeme sigil cs
  | reference {name : List Char} : sigil.isDigit = false → IsName name →
      IsLexeme sigil (sigil :: name)
  /-- A name after the quotation mark must not make a reference of it. -/
  | quotation {text : List Char} : '"' ∉ text →
      (sigil = '"' → text.head?.any Text.isIdentifierStart = false) →
      IsLexeme sigil ('"' :: (text ++ ['"']))
  | symbol {c : Char} {after : List Char} : c ≠ '"' →
      (∀ d ∈ c :: after, isWordPart d = false) → IsLexeme sigil (c :: after)
  | single {c : Char} : c ≠ '"' → IsLexeme sigil [c]

def isScanned (c : Char) : Bool := c == '.' || Text.isIdentifierPart c

section

variable {sigil c : Char} {after cs : List Char} {symbols : List String}

theorem not_isDigit_of_shape (h : shape sigil c after ≠ .numeral) : c.isDigit = false := by
  by_contra hd
  have hn : startsNumeral c after = true := by
    rw [startsNumeral, Bool.eq_true_of_not_eq_false hd, Bool.true_or]
  exact h (if_pos hn)

theorem not_isDigit_of_start (h : Text.isIdentifierStart c = true) : c.isDigit = false := by
  by_contra hd
  have hno := Text.not_isDecimalDigit_of_isIdentifierStart h
  rw [Text.isDecimalDigit_of_isDigit (Bool.eq_true_of_not_eq_false hd)] at hno
  cases hno

theorem shape_of_start (h : Text.isIdentifierStart c = true) :
    shape sigil c after = .identifier := by
  have hdot : c ≠ '.' := by
    rintro rfl
    cases h
  simp [shape, startsNumeral, not_isDigit_of_start h, hdot, h]

theorem shape_of_reference (hd : sigil.isDigit = false)
    (hs : Text.isIdentifierStart sigil = false) (hc : Text.isIdentifierStart c = true) :
    shape sigil sigil (c :: after) = .reference := by
  simp [shape, startsNumeral, hd, hs, not_isDigit_of_start hc, hc]

theorem shape_of_quote (h : sigil = '"' → after.head?.any Text.isIdentifierStart = false) :
    shape sigil '"' after = .quotation := by
  have hquote : startsNumeral '"' after = false ∧ Text.isIdentifierStart '"' = false := ⟨rfl, rfl⟩
  have hreference : ¬ ('"' = sigil ∧ after.head?.any Text.isIdentifierStart = true) := by
    rintro ⟨rfl, hstart⟩
    rw [h rfl] at hstart
    cases hstart
  simp only [shape, hquote, hreference, Bool.false_eq_true, if_false, if_true]

theorem shape_of_symbol (hc : c ≠ '"') (h : ∀ d ∈ c :: after, isWordPart d = false) :
    shape sigil c after = .symbol := by
  obtain ⟨hhead, htail⟩ := List.forall_mem_cons.1 h
  have hnumeral : ¬ startsNumeral c after = true := fun hn => by
    rw [isWordPart_of_startsNumeral hn] at hhead
    cases hhead
  have hstart : ¬ Text.isIdentifierStart c = true := fun hs => by
    rw [isWordPart_of_isIdentifierStart hs] at hhead
    cases hhead
  have hreference : ¬ (c = sigil ∧ after.head?.any Text.isIdentifierStart = true) := by
    rintro ⟨-, hname⟩
    obtain ⟨d, rest, rfl, hd⟩ := exists_cons_of_head hname
    have hno := htail d List.mem_cons_self
    rw [isWordPart_of_isIdentifierStart hd] at hno
    cases hno
  rw [shape, if_neg hnumeral, if_neg hstart, if_neg hreference, if_neg hc]

theorem shape_symbol (h : shape sigil c after = .symbol) : c ≠ '"' := by
  unfold shape at h
  split_ifs at h with _ _ _ hq
  exact hq

theorem Leads.isLexeme (ht : SymbolTable symbols)
    (h : Leads sigil (· ∈ symbols) c after (c :: after)) : IsLexeme sigil (c :: after) := by
  cases h with
  | numeral hs hl => exact .literal hl.mem
  | identifier hs hl => exact .name hl.mem
  | reference hs hl =>
    have hnumeral : shape sigil c after ≠ .numeral := by rw [hs]; nofun
    obtain ⟨rfl, -⟩ := shape_reference hs
    exact .reference (not_isDigit_of_shape hnumeral) hl.mem
  | @quotation text rest hs hq =>
    obtain rfl := shape_quotation hs
    refine .quotation hq ?_
    rintro rfl
    by_contra hname
    obtain ⟨d, after, rfl, hd⟩ := exists_cons_of_head (Bool.eq_true_of_not_eq_false hname)
    rw [List.cons_append, shape_of_reference rfl rfl hd] at hs
    cases hs
  | symbol hs hl =>
    have hword := ht.wordless _ hl.mem
    rw [String.toList_ofList] at hword
    exact .symbol (shape_symbol hs) hword
  | single hs => exact .single (shape_symbol hs)

theorem leads_single (ht : SymbolTable symbols) (hc : c ≠ '"') :
    Leads sigil (· ∈ symbols) c [] [c] := by
  cases hs : shape sigil c [] with
  | numeral =>
    have hd : c.isDigit = true := by simpa [startsNumeral] using shape_numeral hs
    exact .numeral hs (.whole ⟨⟨[c], none, none⟩, Number.Numeral.proper_digit hd, rfl⟩)
  | identifier =>
    exact .identifier hs (.whole (by simp [IsName, Text.isIdentifier, shape_identifier hs]))
  | reference => cases (shape_reference hs).2
  | quotation => exact absurd (shape_quotation hs) hc
  | symbol =>
    by_cases hm : .ofList [c] ∈ symbols
    · exact .symbol hs (.whole hm)
    · refine .single hs fun m hfront hmem => ?_
      have hne : m ≠ [] := by
        rintro rfl
        exact ht.nonempty _ hmem rfl
      rw [eq_cons_drop_one hfront hne, List.prefix_nil.1 ( drop_one_prefix hfront)] at hmem
      exact hm hmem

theorem IsLexeme.leads (ht : SymbolTable symbols) (h : IsLexeme sigil cs)
    (hsymbol : (∀ d ∈ cs, isWordPart d = false) → .ofList cs ∈ symbols) :
    ∃ c after, cs = c :: after ∧ Leads sigil (· ∈ symbols) c after cs := by
  cases h with
  | literal hl =>
    obtain ⟨c, after, rfl⟩ := List.exists_cons_of_ne_nil hl.ne_nil
    exact ⟨c, after, rfl, .numeral (if_pos hl.starts) (.whole hl)⟩
  | name hn =>
    cases cs with
    | nil => cases hn
    | cons c after =>
      have hstart : Text.isIdentifierStart c = true := (Bool.and_eq_true_iff.1 hn).1
      exact ⟨c, after, rfl, .identifier (shape_of_start hstart) (.whole hn)⟩
  | @reference name hd hn =>
    refine ⟨sigil, name, rfl, ?_⟩
    cases name with
    | nil => cases hn
    | cons c after =>
      obtain ⟨hc, hafter⟩ := Bool.and_eq_true_iff.1 hn
      cases hstart : Text.isIdentifierStart sigil with
      | true =>
        -- The sigil can not be told from the name after it.
        have hname : IsName (sigil :: c :: after) := by
          simp only [IsName, Text.isIdentifier, hstart, List.all_cons,
            Text.isIdentifierPart_of_start hc, hafter, Bool.and_true]
        exact .identifier (shape_of_start hstart) (.whole hname)
      | false => exact .reference (shape_of_reference hd hstart hc) (.whole hn)
  | @quotation text hq hname =>
    refine ⟨_, _, rfl, .quotation (shape_of_quote fun hs => ?_) hq rfl⟩
    cases text with
    | nil => rfl
    | cons d text => exact hname hs
  | symbol hc hword =>
    exact ⟨_, _, rfl, .symbol (shape_of_symbol hc hword) (.whole (hsymbol hword))⟩
  | single hc => exact ⟨_, _, rfl, leads_single ht hc⟩

end

namespace Registry

variable {r r' : Registry} {name p text : String} {o : Operator} {ls : List String}

theorem Reachable.isLexeme_of_mem (h : r.Reachable) (hls : r.lexemes text = .ok ls)
    (hp : p ∈ ls) : IsLexeme r.sigil p.toList := by
  obtain ⟨c, after, hlead⟩ := ((lexemes_iff h).1 hls).leads p hp
  obtain ⟨tail, htail, hfront⟩ := hlead.front h.symbolTable
  rw [htail] at hlead ⊢
  exact (hlead.alone hfront).isLexeme h.symbolTable

theorem Reachable.lexemes_literal (h : r.Reachable) {rule : Rule} (hrule : rule ∈ r.rules)
    (hm : rule.matcher = .literal p) (hp : IsLexeme r.sigil p.toList) :
    r.lexemes p = .ok [p] := by
  have hblank := (h.wellFormed.literals rule hrule p hm).2
  have hsymbol (hword : ∀ d ∈ p.toList, isWordPart d = false) : .ofList p.toList ∈ r.symbols := by
    rw [String.ofList_toList]
    exact mem_symbols.2 ⟨rule, hrule, hm, hword⟩
  obtain ⟨c, after, hcs, hlead⟩ := hp.leads h.symbolTable hsymbol
  have hc : Text.isBlank c = false := hblank c (by rw [hcs]; exact List.mem_cons_self)
  have hsplit := Splits.lexeme (List.forall_mem_nil _) hc hlead
    (by rw [List.append_nil, hcs]) (.blank (List.forall_mem_nil _))
  rw [lexemes_iff h, hcs]
  rwa [String.ofList_toList] at hsplit

theorem rules_insert_operator (hn : name ∉ r.ruleNames) (matcher : Matcher) (o : Operator) :
    (r.insert (.operator name matcher o)).rules =
      ⟨name, matcher, fun _ => .ok (.operator o)⟩ :: r.rules := by
  rw [insert, place, if_neg (mt any_name.1 hn)]
  rfl

theorem tokens_operator (hn : name ∉ r.ruleNames)
    (hl : (r.insert (.operator name (.literal p) o)).lexemes p = .ok [p]) :
    (r.insert (.operator name (.literal p) o)).tokens p = .ok [.operator o] := by
  have hresolve : (r.insert (.operator name (.literal p) o)).resolve p [] false =
      .ok (.operator o) := by
    simp [resolve, rules_insert_operator hn, Matcher.accepts]
  rw [tokens, hl]
  exact resolveAll_cons hresolve rfl

/-- The literal of a new operator is a lexeme by itself and gives its token, if it has the form of
one. Any other literal with a quotation mark in front, or with a character of identifiers and
literals in it, is a lexeme of no text. Left out are the literals of several characters whose only
word characters are outside ASCII: no identifier or number has such a character, and still the table
of symbols passes them over. -/
theorem Reachable.register_literal (h : r.Reachable) (hn : name ∉ r.ruleNames)
    (hg : r.register (.operator name (.literal p) o) = .ok r') :
    (IsLexeme r.sigil p.toList → r'.lexemes p = .ok [p] ∧ r'.tokens p = .ok [.operator o]) ∧
    (¬ IsLexeme r.sigil p.toList → p.toList.head? = some '"' ∨ p.toList.any isScanned = true →
      ∀ text ls, r'.lexemes text = .ok ls → p ∉ ls) := by
  have h' := h.register hg
  obtain ⟨-, rfl⟩ := register_ok hg
  have hrule : ⟨name, .literal p, fun _ => .ok (.operator o)⟩ ∈
      (r.insert (.operator name (.literal p) o)).rules := mem_place.2 (.inl rfl)
  refine ⟨fun hp => ?_, fun hno _ text ls hls hm => hno (h'.isLexeme_of_mem hls hm)⟩
  have hl := h'.lexemes_literal hrule rfl hp
  exact ⟨hl, tokens_operator hn hl⟩

theorem not_mem_ruleNames_default : "x" ∉ (Registry.default {}).ruleNames := by
  rw [ruleNames, rules_default]
  decide

theorem Reachable.register_literal_plus : (Registry.default {}).Reachable ∧
    "x" ∉ (Registry.default {}).ruleNames ∧
    (∃ r, (Registry.default {}).register (.operator "x" (.literal "+=") Builtin.plus) = .ok r ∧
      r.lexemes "+=" = .ok ["+="] ∧ r.tokens "+=" = .ok [.operator Builtin.plus]) ∧
    ∃ r, (Registry.default {}).register (.operator "x" (.literal "a+") Builtin.plus) = .ok r ∧
      ∀ text ls, r.lexemes text = .ok ls → "a+" ∉ ls := by
  have h := reachable_default {}
  have hn := not_mem_ruleNames_default
  have hf : (Registry.default {}).frozen = false := insertAll_frozen _ _
  have hplus := register_checked (g := .operator "x" (.literal "+=") Builtin.plus) hf rfl
  have hmixed := register_checked (g := .operator "x" (.literal "a+") Builtin.plus) hf rfl
  have htext : "+=".toList = ['+', '='] ∧ "a+".toList = ['a', '+'] := ⟨rfl, rfl⟩
  have hlexeme : IsLexeme (Registry.default {}).sigil "+=".toList := by
    have hword : isWordPart '+' = false ∧ isWordPart '=' = false := by decide
    rw [htext.1]
    exact .symbol (by decide)
      (List.forall_mem_cons.2 ⟨hword.1, List.forall_mem_singleton.2 hword.2⟩)
  have hno : ¬ IsLexeme (Registry.default {}).sigil "a+".toList := by
    rw [htext.2]
    intro hl
    cases hl with
    | literal hl => exact absurd (isLiteral_iff.1 hl) (by decide)
    | name hname => exact Bool.false_ne_true hname
    | symbol _ hword => exact absurd (hword 'a' List.mem_cons_self) (by decide)
  exact ⟨h, hn, ⟨_, hplus, (h.register_literal hn hplus).1 hlexeme⟩,
    _, hmixed, (h.register_literal hn hmixed).2 hno (.inr (by decide))⟩

/-- A letter and a symbol character are accepted as a literal, but are two lexemes. -/
theorem literal_cut : (Registry.default {}).Reachable ∧ "x" ∉ (Registry.default {}).ruleNames ∧
    ∃ r, (Registry.default {}).register (.operator "x" (.literal "a+") Builtin.plus) = .ok r ∧
      r.lexemes "a+" = .ok ["a", "+"] ∧ r.tokens "a+" = .error (.unknownToken "a") := by
  let g : Registration := .operator "x" (.literal "a+") Builtin.plus
  let r : Registry := (Registry.default {}).insert g
  have hg : (Registry.default {}).register g = .ok r :=
    register_checked (insertAll_frozen _ _) rfl
  have hrules : r.rules =
      ⟨"x", .literal "a+", fun _ => .ok (.operator Builtin.plus)⟩ :: (Registry.default {}).rules :=
    rules_insert_operator not_mem_ruleNames_default _ _
  have hsymbols : r.symbols = defaultSymbols := by
    have hnone : (Matcher.literal "a+").symbol? = none := by decide
    simp only [symbols, hrules, List.filterMap_cons, hnone]
    exact symbols_default {}
  have hlexemes : r.lexemes "a+" = .ok ["a", "+"] := by
    rw [lexemes, hsymbols, scan_cons rfl rfl (scan_cons rfl rfl (scan_nil rfl))]
    rfl
  have hresolve : r.resolve "a" [] false = .error (.unknownToken "a") := by
    have hnone : r.rules.find? (·.matcher.accepts "a" []) = none := by
      rw [hrules, rules_default]
      decide
    rw [resolve, hnone]
    rfl
  refine ⟨reachable_default {}, not_mem_ruleNames_default, r, hg, hlexemes, ?_⟩
  have hcalled : (["+"].head? == some "(") = false := by decide
  simp only [tokens, hlexemes, resolveAll, hcalled, hresolve]

end Registry

end Reckoner
