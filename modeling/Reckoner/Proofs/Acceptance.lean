import Reckoner.Calculator
import Reckoner.Proofs.Completion
import Reckoner.Proofs.Reconstruction
import Reckoner.Proofs.Resolution

set_option autoImplicit false

namespace Reckoner

namespace Calculator

def withVariables (bindings : Bindings Float) : Calculator :=
  { config := {}, registry := .default {}, bindings }

theorem remember_bindings (c : Calculator) (text : String) (e : Expression) :
    (c.remember text e).1.bindings = c.bindings := by
  simp only [remember]
  split
  · rfl
  · split
    · rfl
    · rfl

theorem evaluateValue_answer {c : Calculator} {text : String} (hc : c.cached? text = none) :
    (c.evaluateValue text).answer =
      match c.compile text with
      | .error e => .error e
      | .ok e => (e.run c.bindings).1 := by
  cases he : c.compile text with
  | error e => simp only [evaluateValue, prepare, hc, he]
  | ok e => simp only [evaluateValue, prepare, hc, he, remember_bindings]

end Calculator

namespace Language

theorem compile_postorder {s : String} {e : Expression} {bound : Bindings Float} {v : Value}
    (hc : Expression.compile (.default {}) 256 s = .ok e) (hv : (e.run bound).1 = .ok v) :
    ∃ ts, (Registry.default {}).tokens s = .ok ts ∧
      ∃ t : Phrase, reversePolish 256 ts = .ok (t.postorder words.script) := by
  simp only [Expression.compile] at hc
  cases hs : (Registry.default {}).tokens s with
  | error err => rw [hs] at hc; cases hc
  | ok ts =>
    simp only [hs] at hc
    cases hp : reversePolish 256 ts with
    | error err => rw [hp] at hc; cases hc
    | ok out =>
      rw [hp] at hc
      cases hc
      have hsym : ∀ t ∈ ts, words.script.Symbol t := symbol_yields.tokens hs
      have hout := reversePolish_among .opening hsym hp
      rw [← meaning_lexicon] at hout
      obtain ⟨t, ht⟩ := exists_postorder hout hv
      rw [meaning_lexicon] at ht
      exact ⟨ts, rfl, t, by rw [hp, ht]⟩

/-- A text with a value is read as a tree, and is a sentence exactly if its tokens are in place. -/
theorem evaluateValue_sentence {bound : Bindings Float} {s : String} {v : Value}
    (h : ((Calculator.withVariables bound).evaluateValue s).answer = .ok v) :
    ∃ ts, (Registry.default {}).tokens s = .ok ts ∧
      (∃ t : Phrase, reversePolish 256 ts = .ok (t.postorder words.script)) ∧
      (Derives words.script .sentence ts ↔ InPlace words.script .due ts) := by
  rw [Calculator.evaluateValue_answer rfl] at h
  cases hc : (Calculator.withVariables bound).compile s with
  | error e => rw [hc] at h; cases h
  | ok e =>
    rw [hc] at h
    obtain ⟨ts, hts, t, ht⟩ := compile_postorder hc h
    refine ⟨ts, hts, ⟨t, ht⟩, fun hs => ?_, fun hp => sentence_of_inPlace words hp ht⟩
    have hp := hs.inPlace .last
    rwa [List.append_nil] at hp

theorem tokens_misplaced : (Registry.default {}).tokens "1 2 +" =
    .ok [.number 1, .number 2, .operator Builtin.plus] := by
  have hs : (Registry.default {}).lexemes "1 2 +" = .ok ["1", "2", "+"] := by
    rw [lexemes_default, scan_cons rfl rfl (scan_cons rfl rfl (scan_cons rfl rfl (scan_nil rfl)))]
    rfl
  let one : Literal := .number "1" (by decide)
  let two : Literal := .number "2" (by decide)
  have hone : one.atom.token = .number 1 := by
    have hn : (Number.Numeral.take Char.isDigit "1".toList).1 = ⟨['1'], none, none⟩ := by decide
    simp only [one, Literal.atom, Atom.token, hn]
    rfl
  have htwo : two.atom.token = .number 2 := by
    have hn : (Number.Numeral.take Char.isDigit "2".toList).1 = ⟨['2'], none, none⟩ := by decide
    simp only [two, Literal.atom, Atom.token, hn]
    rfl
  have hl : (Registry.default {}).resolveAll [] [one.lexeme, two.lexeme, Sign.plus.lexeme] =
      .ok [one.atom.token, two.atom.token, .operator Sign.plus.operator] :=
    resolveAll_cons (resolve_literal one)
      (resolveAll_cons (resolve_literal two) (resolveAll_cons (resolve_sign .plus rfl) rfl))
  rw [hone, htwo] at hl
  rw [Registry.tokens, hs]
  exact hl

theorem answer_misplaced :
    ((Calculator.withVariables {}).evaluateValue "1 2 +").answer = .ok (.number 3) := by
  have hc : (Calculator.withVariables {}).compile "1 2 +" =
      .ok ⟨[.number 1, .number 2, .operator Builtin.plus]⟩ := by
    simp only [Calculator.compile, Expression.compile, Calculator.withVariables, tokens_misplaced]
    rfl
  have hsum : (1 + 2 : Float) = 3 := by decide +kernel
  rw [Calculator.evaluateValue_answer rfl, hc, ← hsum]
  rfl

theorem evaluateValue_sentence_misplaced :
    ((Calculator.withVariables {}).evaluateValue "1 2 +").answer = .ok (.number 3) ∧
      ∃ ts, (Registry.default {}).tokens "1 2 +" = .ok ts ∧
        (∃ t : Phrase, reversePolish 256 ts = .ok (t.postorder words.script)) ∧
        (Derives words.script .sentence ts ↔ InPlace words.script .due ts) :=
  ⟨answer_misplaced, evaluateValue_sentence answer_misplaced⟩

/-- A text with an operator after both operands has a value, though it is no sentence. -/
theorem evaluateValue_misplaced : ∃ ts, (Registry.default {}).tokens "1 2 +" = .ok ts ∧
    ((Calculator.withVariables {}).evaluateValue "1 2 +").answer = .ok (.number 3) ∧
      ¬ Derives words.script .sentence ts := by
  refine ⟨_, tokens_misplaced, answer_misplaced, fun h => ?_⟩
  have hp := h.inPlace .last
  generalize hts : [Token.number 1, .number 2, .operator Builtin.plus] ++ [] = ts at hp
  cases hp with
  | leaf a hp =>
    -- The second number comes right after the first.
    have hrest := (List.cons.inj hts).2
    cases hp <;> cases hrest
  | unary u hp => cases hts
  | group hp => cases hts
  | empty f hp => cases hts
  | call f hp => cases hts

end Language

end Reckoner
