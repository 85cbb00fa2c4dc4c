import Reckoner.Proofs.Conversion

set_option autoImplicit false

namespace Reckoner

/-- Other atoms, operators and functions in the place of those that stand there. -/
structure Renaming where
  atom : Atom → Atom := id
  operator : Operator → Operator := id
  function : Callable → Callable := id
  popsBefore : ∀ o p, (operator o).popsBefore (operator p) = o.popsBefore p := by intros; rfl

namespace Renaming

variable (R : Renaming)

def token : Token → Token
  | .number x => (R.atom (.number x)).token
  | .text s => (R.atom (.text s)).token
  | .var name => (R.atom (.var name)).token
  | .identifier name => (R.atom (.identifier name)).token
  | .leftBracket => .leftBracket
  | .rightBracket => .rightBracket
  | .comma => .comma
  | .operator o => .operator (R.operator o)
  | .function f => .function (R.function f)

def waiting : Waiting → Waiting
  | .operator o => .operator (R.operator o)
  | .function f => .function (R.function f)
  | .bracket => .bracket

def conversion (s : Conversion) : Conversion where
  output := s.output.map R.token
  waiting := s.waiting.map R.waiting
  depth := s.depth
  previous := s.previous.map R.token

theorem token_atom (a : Atom) : R.token a.token = (R.atom a).token := by cases a <;> rfl

theorem atCall_waiting (ws : List Waiting) : atCall (ws.map R.waiting) = atCall ws := by
  rcases ws with _ | ⟨o | f | _, ws⟩ <;> rfl

theorem toBracket_waiting (ws : List Waiting) (output : List Token) :
    toBracket (ws.map R.waiting) (output.map R.token) =
      (toBracket ws output).map fun x => (x.1.map R.waiting, x.2.map R.token) := by
  induction ws generalizing output with
  | nil => rfl
  | cons w ws ih =>
    cases w with
    | operator o => exact ih (.operator o :: output)
    | function f => exact ih (.function f :: output)
    | bracket => rfl

theorem release_waiting (o : Operator) (ws : List Waiting) (output : List Token) :
    release (R.operator o) (ws.map R.waiting) (output.map R.token) =
      ((release o ws output).1.map R.waiting, (release o ws output).2.map R.token) := by
  induction ws generalizing output with
  | nil => rfl
  | cons w ws ih =>
    cases w with
    | function f => rfl
    | bracket => rfl
    | operator p =>
      simp only [List.map_cons, waiting, release, R.popsBefore]
      split
      · exact ih (.operator p :: output)
      · rfl

theorem finish_waiting (ws : List Waiting) (output : List Token) :
    finish (ws.map R.waiting) (output.map R.token) =
      (finish ws output).map (List.map R.token) := by
  induction ws generalizing output with
  | nil => simp only [List.map_nil, finish, Except.map, List.map_reverse]
  | cons w ws ih =>
    cases w with
    | operator o => exact ih (.operator o :: output)
    | function f => exact ih (.function f :: output)
    | bracket => rfl

theorem after_atom {s : Conversion} {a : Atom} (h : s.previous = some a.token) :
    s.afterComma = false ∧ s.afterLeftBracket = false := by
  simp only [Conversion.afterComma, Conversion.afterLeftBracket, h]
  cases a <;> exact ⟨rfl, rfl⟩

variable (s : Conversion) (limit : Nat)

theorem after_conversion : (R.conversion s).afterComma = s.afterComma ∧
    (R.conversion s).afterLeftBracket = s.afterLeftBracket := by
  obtain ⟨output, ws, depth, _ | t⟩ := s
  · exact ⟨rfl, rfl⟩
  · cases t with
    | number x => exact after_atom (a := R.atom (.number x)) rfl
    | text s => exact after_atom (a := R.atom (.text s)) rfl
    | var name => exact after_atom (a := R.atom (.var name)) rfl
    | identifier name => exact after_atom (a := R.atom (.identifier name)) rfl
    | _ => exact ⟨rfl, rfl⟩

theorem leftBracket_conversion :
    (R.conversion s).leftBracket limit = (s.leftBracket limit).map R.conversion := by
  have hd : (R.conversion s).depth = s.depth := rfl
  have hc : atCall (R.conversion s).waiting = atCall s.waiting := R.atCall_waiting s.waiting
  simp only [Conversion.leftBracket, hd, hc]
  split
  · rfl
  · cases atCall s.waiting <;> rfl

theorem comma_conversion : (R.conversion s).comma = s.comma.map R.conversion := by
  have hb : toBracket (R.conversion s).waiting (R.conversion s).output = _ :=
    R.toBracket_waiting s.waiting s.output
  simp only [Conversion.comma, (R.after_conversion s).1, (R.after_conversion s).2, hb]
  split
  · rfl
  · cases toBracket s.waiting s.output with
    | none => rfl
    | some x =>
      simp only [Option.map_some, R.atCall_waiting]
      cases atCall x.1 <;> rfl

theorem rightBracket_conversion :
    (R.conversion s).rightBracket = s.rightBracket.map R.conversion := by
  have hb : toBracket (R.conversion s).waiting (R.conversion s).output = _ :=
    R.toBracket_waiting s.waiting s.output
  simp only [Conversion.rightBracket, (R.after_conversion s).1, hb]
  split
  · rfl
  · rcases toBracket s.waiting s.output with _ | ⟨_ | ⟨o | f | _, ws⟩, output⟩ <;> rfl

theorem operator_conversion (o : Operator) :
    (R.conversion s).operator (R.operator o) = R.conversion (s.operator o) := by
  have hr : release (R.operator o) (R.conversion s).waiting (R.conversion s).output = _ :=
    R.release_waiting o s.waiting s.output
  simp only [Conversion.operator, hr]
  rfl

theorem step_conversion (t : Token) :
    (R.conversion s).step limit (R.token t) = (s.step limit t).map R.conversion := by
  have hatom (a : Atom) :
      (R.conversion s).step limit (R.token a.token) = (s.step limit a.token).map R.conversion := by
    rw [token_atom, Conversion.step_atom, Conversion.step_atom, ← token_atom]
    rfl
  cases t with
  | number x => exact hatom (.number x)
  | text s => exact hatom (.text s)
  | var name => exact hatom (.var name)
  | identifier name => exact hatom (.identifier name)
  | leftBracket => exact R.leftBracket_conversion s limit
  | rightBracket => exact R.rightBracket_conversion s
  | comma => exact R.comma_conversion s
  | operator o => exact congrArg Except.ok (R.operator_conversion s o)
  | function f => rfl

theorem run_conversion (ts : List Token) :
    (R.conversion s).run limit (ts.map R.token) = (s.run limit ts).map R.conversion :=
  Conversion.run_map (fun s t => R.step_conversion s limit t) s ts

theorem startsExpression_map (ts : List Token) :
    startsExpression (ts.map R.token) = startsExpression ts := by
  have hatom (a : Atom) (us : List Token) : startsExpression (a.token :: us) = false := by
    cases a <;> rfl
  cases ts with
  | nil => rfl
  | cons t ts =>
    cases t with
    | number x => exact hatom (R.atom (.number x)) _
    | text s => exact hatom (R.atom (.text s)) _
    | var name => exact hatom (R.atom (.var name)) _
    | identifier name => exact hatom (R.atom (.identifier name)) _
    | _ => rfl

/-- Renamed tokens are converted as the tokens are. -/
theorem reversePolish_map (ts : List Token) :
    reversePolish limit (ts.map R.token) = (reversePolish limit ts).map (List.map R.token) := by
  have hrun : Conversion.run limit {} (ts.map R.token) = _ := R.run_conversion {} limit ts
  simp only [reversePolish, hrun]
  cases Conversion.run limit {} ts with
  | error e => rfl
  | ok s => exact R.finish_waiting s.waiting s.output

end Renaming

end Reckoner
