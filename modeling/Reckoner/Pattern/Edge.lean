import Reckoner.Text.WordCharacter

set_option autoImplicit false

namespace Reckoner.Pattern

inductive Edge where
  | textStart | textEnd | lineStart | lineEnd
  /-- Edges of lines that a carriage return ends too, with a line feed after it or alone. -/
  | returnLineStart | returnLineEnd
  | wordEdge | noWordEdge | wordStart | wordEnd | noWordBefore | noWordAfter
  deriving DecidableEq, Repr

def wordBeside (c : Option Char) : Bool := c.any Text.isWordCharacter

def Edge.holds (before after : Option Char) : Edge → Bool
  | .textStart => before.isNone
  | .textEnd => after.isNone
  | .lineStart => before.all (· == '\n')
  | .lineEnd => after.all (· == '\n')
  | .returnLineStart => before.all (· == '\n') || before == some '\r' && after != some '\n'
  | .returnLineEnd => after.all (· == '\r') || after == some '\n' && before != some '\r'
  | .wordEdge => wordBeside before != wordBeside after
  | .noWordEdge => wordBeside before == wordBeside after
  | .wordStart => !wordBeside before && wordBeside after
  | .wordEnd => wordBeside before && !wordBeside after
  | .noWordBefore => !wordBeside before
  | .noWordAfter => !wordBeside after

end Reckoner.Pattern
