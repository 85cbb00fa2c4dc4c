import Mathlib.Data.Set.Operations
import Reckoner.Builtin
import Reckoner.Proofs.Renaming
import Reckoner.Proofs.Sequences

set_option autoImplicit false

namespace Reckoner

variable (names : Set String) [DecidablePred (· ∈ names)] (env : String → Option Float)

/-- The value in the place of a variable, if it has one and is among these names. -/
def Atom.settle : Atom → Atom
  | .var name => if name ∈ names then (env name).elim (.var name) .number else .var name
  | a => a

def substitution : Renaming where
  atom := Atom.settle names env

theorem substitution_var {name : String} {x : Float} (hn : name ∈ names) (hx : env name = some x) :
    (substitution names env).token (.var name) = .number x := by
  simp only [Renaming.token, substitution, Atom.settle, if_pos hn, hx]
  rfl

theorem substitution_var_of_not {name : String} (h : name ∈ names → env name = none) :
    (substitution names env).token (.var name) = .var name := by
  by_cases hn : name ∈ names
  · simp only [Renaming.token, substitution, Atom.settle, if_pos hn, h hn]
    rfl
  · simp only [Renaming.token, substitution, Atom.settle, if_neg hn]
    rfl

/-- A number is evaluated to what the variable in its place would be. -/
theorem step_substitution (items : List Operand) (t : Token) :
    Evaluation.step env items ((substitution names env).token t) =
      Evaluation.step env items t := by
  cases t with
  | var name =>
    by_cases h : name ∈ names → env name = none
    · rw [substitution_var_of_not names env h]
    · obtain ⟨hn, hsome⟩ := Classical.not_imp.1 h
      obtain ⟨x, hx⟩ := Option.ne_none_iff_exists'.1 hsome
      rw [substitution_var names env hn hx]
      simp only [Evaluation.step, hx]
  | _ => rfl

theorem evaluate_substitution (ps : List Token) :
    evaluate env (ps.map (substitution names env).token) = evaluate env ps :=
  evaluate_map fun t _ items => step_substitution names env items t

/-- Values can be put in before the conversion or after it, with the same outcome of the conversion,
and the evaluation with these values is the same as without. -/
theorem substitution_commutes (limit : Nat) (ts ps : List Token) :
    reversePolish limit (ts.map (substitution names env).token) =
      (reversePolish limit ts).map (List.map (substitution names env).token) ∧
    evaluate env (ps.map (substitution names env).token) = evaluate env ps ∧
    (reversePolish limit (ts.map (substitution names env).token)).map (evaluate env) =
      (reversePolish limit ts).map (evaluate env) := by
  have hconversion := (substitution names env).reversePolish_map limit ts
  refine ⟨hconversion, evaluate_substitution names env ps, ?_⟩
  rw [hconversion]
  cases reversePolish limit ts with
  | error e => rfl
  | ok out => exact congrArg Except.ok (evaluate_substitution names env out)

/-- A negative number in the place of a variable is the base of a power as it is. -/
example : reversePolish 1 [.number (-2), .operator Builtin.power, .number 2] =
    .ok [.number (-2), .number 2, .operator Builtin.power] := rfl

end Reckoner
