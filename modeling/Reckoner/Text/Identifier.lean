
set_option autoImplicit false

namespace Reckoner.Text

def isIdentifierStart (c : Char) : Bool := c == '_' || c.isAlpha

def isIdentifierPart (c : Char) : Bool := c == '_' || c.isAlphanum

def isIdentifier : List Char → Bool
  | [] => false
  | c :: cs => isIdentifierStart c && cs.all isIdentifierPart

theorem isIdentifierPart_of_start {c : Char} (h : isIdentifierStart c = true) :
    isIdentifierPart c = true := by
  simp only [isIdentifierStart, isIdentifierPart, Char.isAlphanum, Bool.or_eq_true] at *
  exact h.imp_right Or.inl

end Reckoner.Text
