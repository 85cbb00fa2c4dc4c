import Reckoner.Registry

/-! Splits a text into lexemes and the lexemes into tokens. Blanks separate lexemes and are no part
of them. A lexeme is the longest numeral, identifier or variable that begins where it does, a text
in quotation marks, the longest symbol of the registry, or a single character. Signs are never
part of a number.
-/

set_option autoImplicit false

namespace Reckoner

def startsNumeral (c : Char) (after : List Char) : Bool :=
  c.isDigit || c == '.' && after.head?.any Char.isDigit

def longestSymbol? (symbols : List String) (cs : List Char) : Option String :=
  symbols.find? (·.toList.isPrefixOf cs)

/-- What belongs to a lexeme after its first character; `none` if a quotation is not closed. -/
def lexemeTail (sigil : Char) (symbols : List String) (c : Char) (after : List Char) :
    Option (List Char) :=
  if startsNumeral c after then
    some ((Number.Numeral.take Char.isDigit (c :: after)).1.text.drop 1)
  else if Text.isIdentifierStart c || c == sigil && after.head?.any Text.isIdentifierStart then
    some (after.takeWhile Text.isIdentifierPart)
  else if c = '"' then
    if '"' ∈ after then some (after.takeWhile (· ≠ '"') ++ ['"']) else none
  else
    match longestSymbol? symbols (c :: after) with
    | some s => some (s.toList.drop 1)
    | none => some []

theorem takeWhile_prefix (p : Char → Bool) (cs : List Char) : cs.takeWhile p <+: cs :=
  ⟨cs.dropWhile p, List.takeWhile_append_dropWhile⟩

theorem drop_one_prefix {s after : List Char} {c : Char} (h : s <+: c :: after) :
    s.drop 1 <+: after := by
  cases s with
  | nil => exact List.nil_prefix
  | cons d s => exact (List.cons_prefix_cons.1 h).2

theorem takeWhile_close_prefix {after : List Char} (h : '"' ∈ after) :
    after.takeWhile (· ≠ '"') ++ ['"'] <+: after := by
  induction after with
  | nil => exact absurd h List.not_mem_nil
  | cons c cs ih =>
    by_cases hc : c = '"'
    · subst hc; simp
    · have hm : '"' ∈ cs := (List.mem_cons.1 h).resolve_left (Ne.symm hc)
      simpa [List.takeWhile_cons, hc, List.cons_prefix_cons] using ih hm

theorem lexemeTail_prefix {sigil : Char} {symbols : List String} {c : Char}
    {after tail : List Char} (h : lexemeTail sigil symbols c after = some tail) :
    tail <+: after := by
  unfold lexemeTail at h
  split at h
  · cases h
    exact drop_one_prefix ⟨_, Number.Numeral.take_text Char.isDigit (c :: after)⟩
  · split at h
    · cases h
      exact takeWhile_prefix _ _
    · split at h
      · split at h
        · next hm =>
          cases h
          exact takeWhile_close_prefix hm
        · cases h
      · split at h
        · next s hs =>
          cases h
          have hp := List.find?_some hs
          exact drop_one_prefix (List.isPrefixOf_iff_prefix.1 hp)
        · cases h
          exact List.nil_prefix

def scan (sigil : Char) (symbols : List String) (cs : List Char) :
    Except Error (List (List Char)) :=
  match _h : cs.dropWhile Text.isBlank with
  | [] => .ok []
  | c :: after =>
    match lexemeTail sigil symbols c after with
    | none => .error (.unknownToken (.ofList (c :: after)))
    | some tail => (scan sigil symbols (after.drop tail.length)).map ((c :: tail) :: ·)
termination_by cs.length
decreasing_by
  have hd := (List.dropWhile_sublist (p := Text.isBlank) (l := cs)).length_le
  rw [_h] at hd
  simp only [List.length_cons, List.length_drop] at *
  omega

theorem scan_nil {sigil : Char} {symbols : List String} {cs : List Char}
    (h : cs.dropWhile Text.isBlank = []) : scan sigil symbols cs = .ok [] := by
  rw [scan]
  split
  · rfl
  · next e => rw [h] at e; cases e

theorem scan_unclosed {sigil : Char} {symbols : List String} {cs after : List Char} {c : Char}
    (h : cs.dropWhile Text.isBlank = c :: after) (ht : lexemeTail sigil symbols c after = none) :
    scan sigil symbols cs = .error (.unknownToken (.ofList (c :: after))) := by
  rw [scan]
  split
  · next e => rw [h] at e; cases e
  · next e => rw [h] at e; cases e; rw [ht]

theorem scan_lexeme {sigil : Char} {symbols : List String} {cs after tail : List Char} {c : Char}
    (h : cs.dropWhile Text.isBlank = c :: after)
    (ht : lexemeTail sigil symbols c after = some tail) :
    scan sigil symbols cs =
      (scan sigil symbols (after.drop tail.length)).map ((c :: tail) :: ·) := by
  rw [scan]
  split
  · next e => rw [h] at e; cases e
  · next e => rw [h] at e; cases e; rw [ht]

namespace Registry

def lexemes (r : Registry) (text : String) : Except Error (List String) :=
  (scan r.sigil r.symbols text.toList).map (·.map .ofList)

/-- Resolves lexemes from left to right; the tokens before them come last first. -/
def resolveAll (r : Registry) (preceding : List Token) : List String → Except Error (List Token)
  | [] => .ok []
  | l :: ls =>
    match r.resolve l preceding (ls.head? == some "(") with
    | .error e => .error e
    | .ok t => (r.resolveAll (t :: preceding) ls).map (t :: ·)

def tokens (r : Registry) (text : String) : Except Error (List Token) :=
  match r.lexemes text with
  | .error e => .error e
  | .ok ls => r.resolveAll [] ls

end Registry

end Reckoner
