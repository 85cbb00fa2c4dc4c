import Reckoner.Number.Numeral
import Reckoner.Pattern.Whole
import Reckoner.Text.Identifier
import Reckoner.Token

/-! How a rule recognizes a lexeme. -/

set_option autoImplicit false

namespace Reckoner

inductive Matcher where
  | literal : String → Matcher
  /-- Numerals, over the digits of every script. -/
  | numeral : Matcher
  | quoted : Matcher
  | reference : Char → Matcher
  | pattern : Pattern.Whole → Matcher
  /-- Looks at the lexeme and at the tokens before it, last first. -/
  | context : (String → List Token → Bool) → Matcher

def isQuotedText : List Char → Bool
  | [] => false
  | c :: cs => c == '"' && cs.dropWhile (· ≠ '"') == ['"']

def isReference (sigil : Char) : List Char → Bool
  | [] => false
  | c :: cs => c == sigil && Text.isIdentifier cs

namespace Matcher

def accepts (m : Matcher) (lexeme : String) (preceding : List Token) : Bool :=
  match m with
  | literal s => s == lexeme
  | numeral => Number.isNumeral Text.isDecimalDigit lexeme.toList
  | quoted => isQuotedText lexeme.toList
  | reference sigil => isReference sigil lexeme.toList
  | pattern p => p.accepts lexeme
  | context f => f lexeme preceding

def ofPattern (text : String) : Except Error Matcher :=
  match Pattern.Whole.read? text with
  | some p => .ok (.pattern p)
  | none => .error (.config "invalid pattern")

def escapedPattern (c : Char) : String :=
  if c ∈ "\\.+*?()|[]\x7b\x7d^$#&-~".toList then .ofList ['\\', c] else .ofList [c]

/-- The pattern with which a matcher agrees, where it has one. -/
def patternText? : Matcher → Option String
  | quoted => some "^\"[^\"]*\"$"
  | reference sigil => some ("^" ++ escapedPattern sigil ++ "[A-Za-z_][A-Za-z0-9_]*$")
  | pattern p => some p.text
  | literal _ | numeral | context _ => none

def inspect (m : Matcher) : String :=
  match m with
  | literal s => "Literal(" ++ Text.quoted s ++ ")"
  | numeral => "Numeric"
  | context _ => "Callback"
  | quoted | reference _ | pattern _ =>
    "Regex(" ++ Text.quoted (m.patternText?.getD "") ++ ")"

end Matcher

end Reckoner
