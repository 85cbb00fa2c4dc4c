import Reckoner.Proofs.Tables
import Reckoner.Proofs.Tokenization

set_option autoImplicit false

namespace Reckoner.Language

variable {l : String} {preceding : List Token} {called : Bool}

theorem sigil_default : Sigil ({} : Config).sigil := Config.sigil_of_validate (by decide)

theorem resolve_literal (a : Literal) :
    (Registry.default {}).resolve a.lexeme preceding called = .ok a.atom.token := by
  cases a with
  | number s h =>
    have hnumeral : (Registry.default {}).resolve
        (.ofList (Number.Numeral.take Char.isDigit s.toList).1.text) preceding called =
        .ok (Literal.number s h).atom.token := resolve_numeral (Number.take_proper h)
    rwa [Number.take_text_of_isNumeral h, String.ofList_toList] at hnumeral
  | text s h => exact resolve_quoted h
  | var name h => exact resolve_reference sigil_default h

theorem resolve_negation (h : startsExpression preceding = true) :
    (Registry.default {}).resolve "-" preceding called = .ok (.operator Builtin.negation) := by
  rw [startsExpression_eq] at h
  have hsign : (Registry.default {}).resolve Sign.minus.lexeme preceding called =
      .ok ((Item.sign .minus).token false preceding.head?) := Reckoner.resolve_sign .minus
  rw [Item.token, if_pos ⟨rfl, h⟩] at hsign
  exact hsign

theorem resolve_sign (o : Sign) (h : startsExpression preceding = false) :
    (Registry.default {}).resolve o.lexeme preceding called = .ok (.operator o.operator) := by
  rw [startsExpression_eq] at h
  rw [Reckoner.resolve_sign, Item.token, if_neg (by simp [h])]
  cases o <;> rfl

theorem not_startsExpression (t : Phrase) (preceding : List Token) :
    startsExpression ((t.inOrder words.script).reverse ++ preceding) = false := by
  obtain ⟨ts, h⟩ := t.inOrder_last words
  have hc := t.closes_lastToken words
  rw [h, List.reverse_append, List.reverse_singleton, List.singleton_append, List.cons_append]
  cases hl : t.lastToken words with
  | operator o => rw [hl] at hc; cases hc
  | leftBracket => rw [hl] at hc; cases hc
  | comma => rw [hl] at hc; cases hc
  | number x => rfl
  | text s => rfl
  | var name => rfl
  | identifier name => rfl
  | rightBracket => rfl
  | function f => rfl

/-- Where an operand is due, the lexemes are resolved to the tokens before what follows is. -/
def Resolves (ls : List String) (ts : List Token) : Prop :=
  ∀ (preceding : List Token) (rest : List String) (out : List Token),
    startsExpression preceding = true →
    (Registry.default {}).resolveAll (ts.reverse ++ preceding) rest = .ok out →
    (Registry.default {}).resolveAll preceding (ls ++ rest) = .ok (ts ++ out)

theorem resolves_furtherArguments {ts : List Phrase}
    (h : ∀ t ∈ ts, Resolves (t.inOrder lexemes) (t.inOrder words.script))
    (preceding : List Token) (rest : List String) (out : List Token)
    (hr : (Registry.default {}).resolveAll
      ((Tree.furtherArguments words.script ts).reverse ++ preceding) rest = .ok out) :
    (Registry.default {}).resolveAll preceding (Tree.furtherArguments lexemes ts ++ rest) =
      .ok (Tree.furtherArguments words.script ts ++ out) := by
  induction ts generalizing preceding with
  | nil => exact hr
  | cons t ts ih =>
    simp only [Tree.furtherArguments, List.cons_append, List.append_assoc, List.reverse_cons,
      List.reverse_append, List.nil_append] at hr ⊢
    refine resolveAll_cons (resolve_item sigil_default .comma trivial _) ?_
    refine h t List.mem_cons_self _ _ _ rfl ?_
    exact ih (fun u hu => h u (List.mem_cons_of_mem t hu)) _ hr

theorem resolves_arguments {ts : List Phrase}
    (h : ∀ t ∈ ts, Resolves (t.inOrder lexemes) (t.inOrder words.script)) :
    Resolves (Tree.arguments lexemes ts) (Tree.arguments words.script ts) := by
  intro preceding rest out hp hr
  cases ts with
  | nil => exact hr
  | cons t ts =>
    simp only [Tree.arguments, List.append_assoc, List.reverse_append] at hr ⊢
    refine h t List.mem_cons_self _ _ _ hp ?_
    exact resolves_furtherArguments (fun u hu => h u (List.mem_cons_of_mem t hu)) _ _ _ hr

theorem resolves_inOrder (t : Phrase) : Resolves (t.inOrder lexemes) (t.inOrder words.script) := by
  induction t using Tree.ind with
  | leaf a =>
    intro preceding rest out hp hr
    exact resolveAll_cons (resolve_literal a) hr
  | group e ih =>
    intro preceding rest out hp hr
    simp only [Tree.inOrder, List.cons_append, List.append_assoc, List.reverse_cons,
      List.reverse_append, List.nil_append] at hr ⊢
    refine resolveAll_cons (resolve_item sigil_default .opening trivial _) ?_
    refine ih _ _ _ rfl ?_
    exact resolveAll_cons (resolve_item sigil_default .closing trivial _) hr
  | call f args ih =>
    intro preceding rest out hp hr
    simp only [Tree.inOrder, List.cons_append, List.append_assoc, List.reverse_cons,
      List.reverse_append, List.nil_append] at hr ⊢
    refine resolveAll_cons (resolve_functionName f) ?_
    refine resolveAll_cons (resolve_item sigil_default .opening trivial _) ?_
    refine resolves_arguments ih _ _ _ rfl ?_
    exact resolveAll_cons (resolve_item sigil_default .closing trivial _) hr
  | binary o l r hl hr =>
    intro preceding rest out hp hrest
    simp only [Tree.inOrder, List.cons_append, List.append_assoc, List.reverse_cons,
      List.reverse_append, List.nil_append] at hrest ⊢
    refine hl _ _ _ hp ?_
    refine resolveAll_cons (resolve_sign o (not_startsExpression l preceding)) ?_
    exact hr _ _ _ rfl hrest
  | unary u e ih =>
    intro preceding rest out hp hr
    simp only [Tree.inOrder, List.cons_append, List.append_assoc, List.reverse_cons,
      List.nil_append] at hr ⊢
    refine resolveAll_cons (resolve_negation hp) ?_
    exact ih _ _ _ rfl hr

theorem resolveAll_inOrder (t : Phrase) :
    (Registry.default {}).resolveAll [] (t.inOrder lexemes) = .ok (t.inOrder words.script) := by
  have h := resolves_inOrder t [] [] [] rfl rfl
  rwa [List.append_nil, List.append_nil] at h

theorem symbol_number {t : Token} (h : Registry.buildNumber l = .ok t) :
    words.script.Symbol t := by
  simp only [Registry.buildNumber, Number.read?] at h
  by_cases hn : Number.isNumeral Char.isDigit l.toList = true
  · rw [if_pos hn] at h
    cases h
    exact .leaf (Literal.number l hn)
  · rw [if_neg hn] at h
    cases h

theorem symbol_text {t : Token} (hl : isQuotedText l.toList = true)
    (h : Registry.buildText l = .ok t) : words.script.Symbol t := by
  obtain ⟨text, hm, ht⟩ := isQuotedText_iff.1 hl
  have hb : Registry.buildText l = .ok (.text (.ofList text)) := by
    rw [Registry.buildText, ht, List.drop_one, List.tail_cons, List.dropLast_concat]
  rw [hb] at h
  cases h
  exact .leaf (Literal.text (.ofList text) (by rwa [String.toList_ofList]))

theorem symbol_variable {t : Token} (hl : isReference '$' l.toList = true)
    (h : Registry.buildVariable l = .ok t) : words.script.Symbol t := by
  obtain ⟨name, hn, ht⟩ := isReference_iff.1 hl
  have hb : Registry.buildVariable l = .ok (.var (.ofList name)) := by
    rw [Registry.buildVariable, ht, List.drop_one, List.tail_cons]
  rw [hb] at h
  cases h
  exact .leaf (Literal.var (.ofList name) (by rwa [String.toList_ofList]))

theorem symbol_rule {rule : Rule} (hr : rule ∈ (Registry.default {}).rules)
    (ha : rule.matcher.accepts l preceding = true) {t : Token} (h : rule.build l = .ok t) :
    words.script.Symbol t := by
  rw [rules_default] at hr
  simp only [List.mem_cons, List.not_mem_nil, or_false] at hr
  rcases hr with rfl | rfl | rfl | rfl | rfl | rfl | rfl | rfl | rfl | rfl | rfl | rfl
  · cases h; exact .unary ()
  · cases h; exact .binary Sign.power
  · cases h; exact .binary Sign.divide
  · cases h; exact .binary Sign.times
  · cases h; exact .binary Sign.minus
  · cases h; exact .binary Sign.plus
  · exact symbol_number h
  · exact symbol_text ha h
  · exact symbol_variable ha h
  · cases h; exact .opening
  · cases h; exact .closing
  · cases h; exact .comma

/-- Each token of a text stands for something in the language. -/
theorem symbol_yields : (Registry.default {}).Yields words.script.Symbol where
  rules _ hr _ _ _ ha ht := symbol_rule hr ha ht
  functions name f hf := .function (FunctionName.mk name f hf)

end Reckoner.Language
