import Reckoner.Error
import Reckoner.Text.Alphanumeric
import Reckoner.Text.Blank

set_option autoImplicit false

namespace Reckoner

structure Config where
  sigil : Char := '$'
  /-- Division by zero fails instead of giving zero. -/
  strictDivision : Bool := false
  cache : Bool := true
  /-- The cache is emptied before another entry when it has this many. -/
  cacheSize : Nat := 1024
  maxDepth : Nat := 256
  deriving DecidableEq, Repr

def isSigil (c : Char) : Bool :=
  !(Text.isAlphanumeric c || Text.isBlank c || ['_', '.', '"', '(', ')', ','].contains c)

def Config.validate (c : Config) : Except Error Unit :=
  if ¬ isSigil c.sigil then
    .error (.config ("invalid variable prefix '" ++ .singleton c.sigil ++ "'"))
  else if c.maxDepth = 0 then .error (.config "max_depth must be at least 1")
  else .ok ()

end Reckoner
