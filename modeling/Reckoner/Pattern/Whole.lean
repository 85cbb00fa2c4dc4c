import Reckoner.Pattern.Automaton
import Reckoner.Pattern.Footprint
import Reckoner.Pattern.Reader

set_option autoImplicit false

namespace Reckoner.Pattern

structure Whole where
  text : String
  automaton : Automaton

def anchored (text : String) : String := "^(?:" ++ text ++ ")$"

def Whole.read? (text : String) : Option Whole := do
  let r ← Regular.read? (anchored text).toList
  if r.fits then some ⟨anchored text, r.automaton⟩ else none

def Whole.accepts (p : Whole) (lexeme : String) : Bool := p.automaton.occursIn lexeme.toList

end Reckoner.Pattern
