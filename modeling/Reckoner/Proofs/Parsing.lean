import Reckoner.Expression
import Reckoner.Proofs.Nesting
import Reckoner.Proofs.Resolution

set_option autoImplicit false

namespace Reckoner.Language

def deepest (depth : Nat) : List String → Nat
  | [] => depth
  | l :: ls =>
    max depth (deepest (if l = "(" then depth + 1 else if l = ")" then depth - 1 else depth) ls)

def nesting (ls : List String) : Nat := deepest 0 ls

def brackets : Brackets String := ⟨(· == "("), (· == ")")⟩

theorem brackets_plain {l : String} (ho : l ≠ "(") (hc : l ≠ ")") : brackets.Plain l :=
  ⟨beq_eq_false_iff_ne.2 ho, beq_eq_false_iff_ne.2 hc⟩

theorem brackets_plain_start {x : Start Literal FunctionName Unit} (hx : x ≠ .opening) :
    brackets.Plain (lexemes.start x) :=
  brackets_plain (fun h => hx (legible.start_injective h)) (legible.start_ne_closing x)

theorem brackets_fits : brackets.Fits lexemes where
  opening := rfl
  closing := ⟨rfl, rfl⟩
  leaf a := brackets_plain_start (x := .leaf a) nofun
  function f := brackets_plain_start (x := .function f) nofun
  binary o := by cases o <;> exact ⟨rfl, rfl⟩
  unary _ := ⟨rfl, rfl⟩
  comma := ⟨rfl, rfl⟩

theorem deepest_eq (depth : Nat) (ls : List String) :
    deepest depth ls = brackets.deepest depth ls := by
  induction ls generalizing depth with
  | nil => rfl
  | cons l ls ih => simp only [deepest, Brackets.deepest, brackets, beq_iff_eq, ih]

theorem nesting_inOrder (t : Phrase) : nesting (t.inOrder lexemes) = t.depth :=
  (deepest_eq 0 _).trans (brackets_fits.nesting_inOrder t)

theorem tokens_inOrder {t : Phrase} {s : String}
    (hs : (Registry.default {}).lexemes s = .ok (t.inOrder lexemes)) :
    (Registry.default {}).tokens s = .ok (t.inOrder words.script) := by
  simp only [Registry.tokens, hs, resolveAll_inOrder]

theorem parse_inOrder {t : Phrase} (ht : t.Respects grouping) (hd : t.depth ≤ 256) {s : String}
    (hs : (Registry.default {}).lexemes s = .ok (t.inOrder lexemes)) :
    Expression.parse s = .ok ⟨t.postorder words.script⟩ := by
  have hp : reversePolish 256 (t.inOrder words.script) = .ok (t.postorder words.script) :=
    t.reversePolish_of_ordered words (ordered_of_respects ht) hd
  simp only [Expression.parse, Expression.compile, tokens_inOrder hs]
  exact congrArg (Except.map Expression.mk) hp

/-- A text whose lexemes are a sentence has exactly one tree that respects the grouping. Its tokens
are those of the tree, and its expression is the postorder of the tree. -/
theorem parse_sentence {s : String} {ls : List String}
    (hs : (Registry.default {}).lexemes s = .ok ls) (hl : Derives lexemes .sentence ls)
    (hn : nesting ls ≤ 256) :
    ∃ t : Phrase, (t.Respects grouping ∧ t.inOrder lexemes = ls) ∧
      (∀ u : Phrase, u.Respects grouping ∧ u.inOrder lexemes = ls → u = t) ∧
      (Registry.default {}).tokens s = .ok (t.inOrder words.script) ∧
      Expression.parse s = .ok ⟨t.postorder words.script⟩ := by
  obtain ⟨t, ht, rfl⟩ := hl.reads grouping lexemes
  refine ⟨t, ⟨ht, rfl⟩, fun u hu => ?_, tokens_inOrder hs, ?_⟩
  · exact Tree.inOrder_injective grouping legible hu.1 ht hu.2
  · rw [nesting_inOrder] at hn
    exact parse_inOrder ht hn hs

theorem parse_sentence_power : ∃ t : Phrase, (t.Respects grouping ∧
      t.inOrder lexemes = ["-", "2", "^", "max", "(", "$x", ",", "3", ")"]) ∧
    (∀ u : Phrase, u.Respects grouping ∧
      u.inOrder lexemes = ["-", "2", "^", "max", "(", "$x", ",", "3", ")"] → u = t) ∧
    (Registry.default {}).tokens "-2 ^ max($x, 3)" = .ok (t.inOrder words.script) ∧
    Expression.parse "-2 ^ max($x, 3)" = .ok ⟨t.postorder words.script⟩ := by
  have hs : (Registry.default {}).lexemes "-2 ^ max($x, 3)" =
      .ok ["-", "2", "^", "max", "(", "$x", ",", "3", ")"] := by
    rw [lexemes_default, scan_cons rfl rfl <| scan_cons rfl rfl <| scan_cons rfl rfl <|
      scan_cons rfl rfl <| scan_cons rfl rfl <| scan_cons rfl rfl <| scan_cons rfl rfl <|
      scan_cons rfl rfl <| scan_cons rfl rfl <| scan_nil rfl]
    rfl
  let two : Literal := .number "2" (by decide)
  let three : Literal := .number "3" (by decide)
  let x : Literal := .var "x" (by decide)
  let max : FunctionName :=
    ⟨"max", callable "max" 2 true (Builtin.callFold "max" Builtin.greater), rfl⟩
  have hl : Derives lexemes .sentence [lexemes.unary (), two.lexeme, Sign.power.lexeme, max.name,
      "(", x.lexeme, ",", three.lexeme, ")"] := by
    have hleft : Derives lexemes .sentence [lexemes.unary (), two.lexeme] :=
      .one (.unary () (.plain (.leaf two)))
    have hargs : Derives lexemes .arguments [x.lexeme, ",", three.lexeme] :=
      .further (.argument (.one (.plain (.leaf x)))) (.one (.plain (.leaf three)))
    exact .more Sign.power hleft (.plain (.call max hargs))
  exact parse_sentence hs hl (by decide)

end Reckoner.Language
