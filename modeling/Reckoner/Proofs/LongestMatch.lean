import Mathlib.Data.List.Infix
import Mathlib.Data.List.TakeWhile
import Reckoner.Lexeme
import Reckoner.Proofs.Extension
import Reckoner.Proofs.Numerals
import Reckoner.Proofs.SymbolTable

/-! Splitting takes the longest lexeme of a grammar. What a text begins with decides of which
language its first lexeme is: numerals, identifiers, references, quoted texts or symbols. The lexeme
is the longest front part of the text in that language, and a single character if none is a symbol.
-/

set_option autoImplicit false

namespace Reckoner

/-- The longest part in a language that a text begins with. -/
structure Longest (L : List Char → Prop) (cs l : List Char) : Prop where
  front : l <+: cs
  mem : L l
  longest : ∀ m, m <+: cs → L m → m.length ≤ l.length

def IsLiteral (cs : List Char) : Prop := ∃ n : Number.Numeral, n.Proper Char.isDigit ∧ n.text = cs

def IsName (cs : List Char) : Prop := Text.isIdentifier cs = true

inductive Shape where
  | numeral | identifier | reference | quotation | symbol
  deriving DecidableEq, Repr

def shape (sigil c : Char) (after : List Char) : Shape :=
  if startsNumeral c after then .numeral
  else if Text.isIdentifierStart c then .identifier
  else if c = sigil ∧ after.head?.any Text.isIdentifierStart then .reference
  else if c = '"' then .quotation
  else .symbol

/-- The first lexeme of a text that does not begin with a blank. -/
inductive Leads (sigil : Char) (IsSymbol : String → Prop) (c : Char) (after : List Char) :
    List Char → Prop where
  | numeral {l : List Char} : shape sigil c after = .numeral → Longest IsLiteral (c :: after) l →
      Leads sigil IsSymbol c after l
  | identifier {l : List Char} : shape sigil c after = .identifier →
      Longest IsName (c :: after) l → Leads sigil IsSymbol c after l
  | reference {name : List Char} : shape sigil c after = .reference →
      Longest IsName after name → Leads sigil IsSymbol c after (c :: name)
  | quotation {text rest : List Char} : shape sigil c after = .quotation → '"' ∉ text →
      after = text ++ '"' :: rest → Leads sigil IsSymbol c after (c :: (text ++ ['"']))
  | symbol {l : List Char} : shape sigil c after = .symbol →
      Longest (fun m => IsSymbol (.ofList m)) (c :: after) l → Leads sigil IsSymbol c after l
  | single : shape sigil c after = .symbol →
      (∀ m, m <+: c :: after → ¬ IsSymbol (.ofList m)) → Leads sigil IsSymbol c after [c]

/-- A sign with the whole exponent of a literal: its mark ends what is before, its digits are all
that follows. -/
def SignsExponent (before : List Char) (sign : Char) (digits : List Char) : Prop :=
  ∃ n : Number.Numeral, n.Proper Char.isDigit ∧ ∃ e ∈ n.exponent,
    n.whole ++ Number.fractionText n.fraction ++ [e.mark] = before ∧ e.sign = some sign ∧
      e.digits = digits

def Blank (w : List Char) : Prop := ∀ c ∈ w, Text.isBlank c = true

/-- A text is split into these lexemes, or refused for a quotation that is not closed. -/
inductive Splits (sigil : Char) (IsSymbol : String → Prop) :
    List Char → Except Error (List String) → Prop where
  | blank {w : List Char} : Blank w → Splits sigil IsSymbol w (.ok [])
  | lexeme {w after l rest : List Char} {c : Char} {answer : Except Error (List String)} :
      Blank w → Text.isBlank c = false → Leads sigil IsSymbol c after l → c :: after = l ++ rest →
      Splits sigil IsSymbol rest answer →
      Splits sigil IsSymbol (w ++ c :: after) (answer.map (.ofList l :: ·))
  | unclosed {w after : List Char} {c : Char} : Blank w → Text.isBlank c = false →
      shape sigil c after = .quotation → '"' ∉ after →
      Splits sigil IsSymbol (w ++ c :: after) (.error (.unknownToken (.ofList (c :: after))))

section

variable {L : List Char → Prop} {cs l m after rest tail : List Char} {c d sigil : Char}
  {symbols : List String} {s : String} {p : Char → Bool}

namespace Longest

theorem unique (hl : Longest L cs l) (hm : Longest L cs m) : l = m :=
  (List.prefix_of_prefix_length_le hl.front hm.front (hm.longest l hl.front hl.mem)).eq_of_length
    (Nat.le_antisymm (hm.longest l hl.front hl.mem) (hl.longest m hm.front hm.mem))

theorem whole (h : L cs) : Longest L cs cs :=
  ⟨List.prefix_refl cs, h, fun _ hm _ => hm.length_le⟩

end Longest

theorem eq_cons_drop_one (h : l <+: c :: after) (hne : l ≠ []) : l = c :: l.drop 1 := by
  obtain ⟨d, l, rfl⟩ := List.exists_cons_of_ne_nil hne
  rw [(List.cons_prefix_cons.1 h).1]
  rfl

theorem prefix_takeWhile (hm : m <+: cs) (h : ∀ c ∈ m, p c = true) : m <+: cs.takeWhile p := by
  obtain ⟨rest, rfl⟩ := hm
  rw [List.takeWhile_append_of_pos h]
  exact List.prefix_append _ _

theorem exists_cons_of_head (h : after.head?.any p = true) :
    ∃ d rest, after = d :: rest ∧ p d = true := by
  cases after with
  | nil => cases h
  | cons d rest => exact ⟨d, rest, rfl, h⟩

/-- What is taken of a text that begins as a numeral is its longest literal. -/
theorem longest_literal (h : startsNumeral c after = true) :
    Longest IsLiteral (c :: after) (Number.Numeral.take Char.isDigit (c :: after)).1.text := by
  have hd : (Number.Numeral.take Char.isDigit (c :: after)).1.hasDigit = true := by
    simp only [startsNumeral, Bool.or_eq_true, Bool.and_eq_true, beq_iff_eq] at h
    rw [Number.Numeral.hasDigit_iff]
    rcases h with h | ⟨rfl, h⟩
    · exact .inl (by simp [Number.Numeral.take, h])
    · obtain ⟨d, after, rfl, hd⟩ := exists_cons_of_head h
      have hdot : Char.isDigit '.' = false := rfl
      exact .inr (by simp [Number.Numeral.take, Number.takeFraction, hdot, hd])
  refine ⟨⟨_, Number.Numeral.take_text _ _⟩, ⟨_, Number.proper_take hd, rfl⟩, ?_⟩
  rintro m ⟨rest, hm⟩ ⟨n, hn, rfl⟩
  rw [← hm]
  exact (Number.Numeral.text_prefix_take Number.apart_isDigit hn rest).length_le

theorem IsLiteral.ne_nil (h : IsLiteral cs) : cs ≠ [] := by
  obtain ⟨n, hn, rfl⟩ := h
  rcases hn.hasDigit with h | h
  · simp [Number.Numeral.text, h]
  · cases hf : n.fraction with
    | none => simp [hf] at h
    | some ds => simp [Number.Numeral.text, Number.fractionText, hf]

theorem longest_name (h : Text.isIdentifierStart c = true) :
    Longest IsName (c :: after) (c :: after.takeWhile Text.isIdentifierPart) := by
  refine ⟨List.cons_prefix_cons.2 ⟨rfl, takeWhile_prefix _ _⟩, ?_, fun m hm hname => ?_⟩
  · simp [IsName, Text.isIdentifier, h, List.all_takeWhile]
  · cases m with
    | nil => exact Nat.zero_le _
    | cons d m =>
      simp only [IsName, Text.isIdentifier, Bool.and_eq_true, List.all_eq_true] at hname
      have hpart := prefix_takeWhile (List.cons_prefix_cons.1 hm).2 hname.2
      exact Nat.succ_le_succ hpart.length_le

theorem longest_name_after (h : after.head?.any Text.isIdentifierStart = true) :
    Longest IsName after (after.takeWhile Text.isIdentifierPart) := by
  obtain ⟨d, after, rfl, hd⟩ := exists_cons_of_head h
  rw [List.takeWhile_cons, if_pos (Text.isIdentifierPart_of_start hd)]
  exact longest_name hd

theorem utf8ByteSize_lt_of_prefix (h : s.toList <+: m) (hlt : s.toList.length < m.length) :
    s.utf8ByteSize < (String.ofList m).utf8ByteSize := by
  obtain ⟨rest, rfl⟩ := h
  have hne : String.ofList rest ≠ "" := by
    rintro he
    have hrest : rest = [] := by simpa using congrArg String.toList he
    simp [hrest] at hlt
  have hpos : (String.ofList rest).utf8ByteSize ≠ 0 := by
    rwa [ne_eq, String.utf8ByteSize_eq_zero_iff]
  rw [String.ofList_append, String.ofList_toList, String.utf8ByteSize_append]
  omega

/-- The first symbol that fits is the longest one. -/
theorem longest_symbol (ht : SymbolTable symbols) (h : longestSymbol? symbols cs = some s) :
    Longest (fun m => .ofList m ∈ symbols) cs s.toList := by
  obtain ⟨hs, before, later, hsplit, hbefore⟩ := List.find?_eq_some_iff_append.1 h
  refine ⟨List.isPrefixOf_iff_prefix.1 hs, ?_, fun m hm hmem => ?_⟩
  · rw [String.ofList_toList, hsplit]
    exact List.mem_append_right _ List.mem_cons_self
  · by_contra hlonger
    have hfront := List.prefix_of_prefix_length_le (List.isPrefixOf_iff_prefix.1 hs) hm (by omega)
    have hsize := utf8ByteSize_lt_of_prefix hfront (by omega)
    have hsorted := ht.sorted
    rw [hsplit] at hmem hsorted
    rcases List.mem_append.1 hmem with hmem | hmem
    · have hno := hbefore _ hmem
      rw [String.toList_ofList, List.isPrefixOf_iff_prefix.2 hm] at hno
      cases hno
    · rcases List.mem_cons.1 hmem with he | hmem
      · rw [he] at hsize
        omega
      · have hlater := (List.pairwise_cons.1 (List.pairwise_append.1 hsorted).2.1).1 _ hmem
        rw [symbolBefore_iff] at hlater
        omega

theorem no_symbol (h : longestSymbol? symbols cs = none) (hm : m <+: cs) :
    .ofList m ∉ symbols := by
  intro hmem
  have hno := List.find?_eq_none.1 h _ hmem
  rw [String.toList_ofList, List.isPrefixOf_iff_prefix.2 hm] at hno
  exact hno rfl

theorem lexemeTail_eq (sigil : Char) (symbols : List String) (c : Char) (after : List Char) :
    lexemeTail sigil symbols c after =
      match shape sigil c after with
      | .numeral => some ((Number.Numeral.take Char.isDigit (c :: after)).1.text.drop 1)
      | .identifier | .reference => some (after.takeWhile Text.isIdentifierPart)
      | .quotation => if '"' ∈ after then some (after.takeWhile (· ≠ '"') ++ ['"']) else none
      | .symbol => some (((longestSymbol? symbols (c :: after)).map (·.toList.drop 1)).getD []) := by
  simp only [lexemeTail, shape, Bool.or_eq_true, Bool.and_eq_true, beq_iff_eq]
  by_cases hn : startsNumeral c after = true
  · simp only [if_pos hn]
  simp only [if_neg hn]
  by_cases hi : Text.isIdentifierStart c = true
  · simp only [if_pos hi, if_pos (Or.inl hi)]
  by_cases hr : c = sigil ∧ after.head?.any Text.isIdentifierStart = true
  · simp only [if_neg hi, if_pos hr, if_pos (Or.inr hr)]
  simp only [if_neg hi, if_neg hr, if_neg (not_or.2 ⟨hi, hr⟩)]
  by_cases hq : c = '"'
  · simp only [if_pos hq]
  · simp only [if_neg hq]
    cases longestSymbol? symbols (c :: after) <;> rfl

theorem shape_numeral (h : shape sigil c after = .numeral) : startsNumeral c after = true := by
  unfold shape at h
  split_ifs at h with hn
  exact hn

theorem shape_identifier (h : shape sigil c after = .identifier) :
    Text.isIdentifierStart c = true := by
  unfold shape at h
  split_ifs at h with _ hi
  exact hi

theorem shape_reference (h : shape sigil c after = .reference) :
    c = sigil ∧ after.head?.any Text.isIdentifierStart = true := by
  unfold shape at h
  split_ifs at h with _ _ hr
  exact hr

theorem shape_quotation (h : shape sigil c after = .quotation) : c = '"' := by
  unfold shape at h
  split_ifs at h with _ _ _ hq
  exact hq

theorem longest_literal_cons (h : startsNumeral c after = true) : Longest IsLiteral (c :: after)
    (c :: (Number.Numeral.take Char.isDigit (c :: after)).1.text.drop 1) := by
  have hl := longest_literal h
  rwa [eq_cons_drop_one hl.front hl.mem.ne_nil] at hl

theorem longest_symbol_cons (ht : SymbolTable symbols)
    (h : longestSymbol? symbols (c :: after) = some s) :
    Longest (fun m => .ofList m ∈ symbols) (c :: after) (c :: s.toList.drop 1) := by
  have hl := longest_symbol ht h
  have hne : s.toList ≠ [] := by
    have hs := ht.nonempty s (by simpa using hl.mem)
    simpa using hs
  rwa [eq_cons_drop_one hl.front hne] at hl

theorem takeWhile_quote {text : List Char} (h : '"' ∉ text) (rest : List Char) :
    (text ++ '"' :: rest).takeWhile (· ≠ '"') = text := by
  have hne : ∀ c ∈ text, decide (c ≠ '"') = true := fun c hc =>
    decide_eq_true fun e => h (e ▸ hc)
  rw [List.takeWhile_append_of_pos hne]
  simp

theorem Leads.taken (ht : SymbolTable symbols) (h : Leads sigil (· ∈ symbols) c after l) :
    ∃ tail, lexemeTail sigil symbols c after = some tail ∧ l = c :: tail := by
  rw [lexemeTail_eq]
  rcases h with ⟨hs, hl⟩ | ⟨hs, hl⟩ | ⟨hs, hl⟩ | ⟨hs, hq, rfl⟩ | ⟨hs, hl⟩ | ⟨hs, hno⟩
  · rw [hs]
    exact ⟨_, rfl, hl.unique (longest_literal_cons (shape_numeral hs))⟩
  · rw [hs]
    exact ⟨_, rfl, hl.unique (longest_name (shape_identifier hs))⟩
  · rw [hs]
    exact ⟨_, rfl, congrArg _ (hl.unique (longest_name_after (shape_reference hs).2))⟩
  · rw [hs]
    refine ⟨_, if_pos (List.mem_append_right _ List.mem_cons_self), ?_⟩
    rw [takeWhile_quote hq]
  · rw [hs]
    cases hf : longestSymbol? symbols (c :: after) with
    | none => exact absurd hl.mem (no_symbol hf hl.front)
    | some s => exact ⟨_, rfl, hl.unique (longest_symbol_cons ht hf)⟩
  · rw [hs]
    cases hf : longestSymbol? symbols (c :: after) with
    | none => exact ⟨_, rfl, rfl⟩
    | some s =>
      have hl := longest_symbol_cons ht hf
      exact absurd hl.mem (hno _ hl.front)

theorem leads_taken (ht : SymbolTable symbols)
    (h : lexemeTail sigil symbols c after = some tail) :
    Leads sigil (· ∈ symbols) c after (c :: tail) := by
  rw [lexemeTail_eq] at h
  cases hs : shape sigil c after with
  | numeral =>
    rw [hs] at h
    cases h
    exact .numeral hs (longest_literal_cons (shape_numeral hs))
  | identifier =>
    rw [hs] at h
    cases h
    exact .identifier hs (longest_name (shape_identifier hs))
  | reference =>
    rw [hs] at h
    cases h
    exact .reference hs (longest_name_after (shape_reference hs).2)
  | quotation =>
    simp only [hs] at h
    split_ifs at h with hm
    cases h
    obtain ⟨rest, hrest⟩ := takeWhile_close_prefix hm
    refine .quotation hs (fun hq => ?_) (by simpa using hrest.symm)
    have hne := List.all_eq_true.1 List.all_takeWhile '"' hq
    simp at hne
  | symbol =>
    simp only [hs] at h
    cases hf : longestSymbol? symbols (c :: after) with
    | none =>
      rw [hf] at h
      cases h
      exact .single hs fun m hm => no_symbol hf hm
    | some s =>
      rw [hf] at h
      cases h
      exact .symbol hs (longest_symbol_cons ht hf)

theorem lexemeTail_eq_none :
    lexemeTail sigil symbols c after = none ↔ shape sigil c after = .quotation ∧ '"' ∉ after := by
  rw [lexemeTail_eq]
  cases hs : shape sigil c after with
  | symbol => cases longestSymbol? symbols (c :: after) <;> simp
  | _ => simp

theorem dropWhile_blank {w : List Char} (hw : Blank w) (hc : Text.isBlank c = false) :
    (w ++ c :: after).dropWhile Text.isBlank = c :: after := by
  rw [List.dropWhile_append_of_pos hw, List.dropWhile_cons_of_neg (by simp [hc])]

theorem head_not_blank (h : cs.dropWhile Text.isBlank = c :: after) : Text.isBlank c = false := by
  have hne : cs.dropWhile Text.isBlank ≠ [] := by rw [h]; nofun
  have hhead := List.head_dropWhile_not Text.isBlank hne
  simpa [h] using hhead

theorem blank_front (h : cs.dropWhile Text.isBlank = c :: after) :
    ∃ w, Blank w ∧ w ++ c :: after = cs := by
  refine ⟨cs.takeWhile Text.isBlank, List.all_eq_true.1 List.all_takeWhile, ?_⟩
  rw [← h, List.takeWhile_append_dropWhile]

theorem scan_lead {w : List Char} (ht : SymbolTable symbols) (hw : Blank w)
    (hc : Text.isBlank c = false) (hl : Leads sigil (· ∈ symbols) c after l)
    (hrest : c :: after = l ++ rest) :
    scan sigil symbols (w ++ c :: after) = (scan sigil symbols rest).map (l :: ·) := by
  obtain ⟨tail, htail, rfl⟩ := hl.taken ht
  have hafter : after = tail ++ rest := (List.cons.inj hrest).2
  rw [scan_lexeme (dropWhile_blank hw hc) htail, hafter, List.drop_left]

theorem splits_scan (ht : SymbolTable symbols) (sigil : Char) (cs : List Char) :
    Splits sigil (· ∈ symbols) cs ((scan sigil symbols cs).map (·.map .ofList)) := by
  fun_induction scan sigil symbols cs with
  | case1 cs hd => exact .blank (List.dropWhile_eq_nil_iff.1 hd)
  | case2 cs c after hd hnone =>
    obtain ⟨w, hw, rfl⟩ := blank_front hd
    obtain ⟨hs, hq⟩ := lexemeTail_eq_none.1 hnone
    exact .unclosed hw (head_not_blank hd) hs hq
  | case3 cs c after hd tail htail ih =>
    obtain ⟨w, hw, rfl⟩ := blank_front hd
    have hfront := lexemeTail_prefix htail
    have hrest : c :: after = (c :: tail) ++ after.drop tail.length :=
      congrArg _ (List.prefix_append_drop hfront)
    have hl := Splits.lexeme hw (head_not_blank hd) (leads_taken ht htail) hrest ih
    cases hscan : scan sigil symbols (after.drop tail.length) with
    | error e => rwa [hscan] at hl
    | ok ls => rwa [hscan] at hl

/-- A text is split into lexemes as the grammar says, and in no other way. -/
theorem splits_iff (ht : SymbolTable symbols) {answer : Except Error (List String)} :
    Splits sigil (· ∈ symbols) cs answer ↔
      (scan sigil symbols cs).map (·.map .ofList) = answer := by
  constructor
  · intro h
    induction h with
    | @blank w hw =>
      rw [scan_nil (List.dropWhile_eq_nil_iff.2 hw)]
      rfl
    | lexeme hw hc hl hrest _ ih =>
      rw [scan_lead ht hw hc hl hrest, ← ih]
      cases scan sigil symbols _ <;> rfl
    | unclosed hw hc hs hq =>
      rw [scan_unclosed (dropWhile_blank hw hc) (lexemeTail_eq_none.2 ⟨hs, hq⟩)]
      rfl
  · rintro rfl
    exact splits_scan ht sigil cs

section

variable {n : Number.Numeral} {e : Number.Exponent} {sign : Char} {ds before digits : List Char}

theorem sign_not_mem_digits (hs : sign = '+' ∨ sign = '-') (hd : ∀ d ∈ ds, d.isDigit = true) :
    sign ∉ ds := by
  intro hm
  have hdigit := hd sign hm
  rcases hs with rfl | rfl <;> cases hdigit

theorem sign_not_mem_front (hs : sign = '+' ∨ sign = '-') (hn : n.Proper Char.isDigit) :
    sign ∉ n.whole ++ Number.fractionText n.fraction := by
  have hdot : sign ≠ '.' := by rcases hs with rfl | rfl <;> decide
  have hfraction : sign ∉ Number.fractionText n.fraction := by
    cases hf : n.fraction with
    | none => exact List.not_mem_nil
    | some ds =>
      have hdigits := sign_not_mem_digits hs (hn.fraction ds hf)
      exact List.not_mem_cons_of_ne_of_not_mem hdot hdigits
  exact List.not_mem_append (sign_not_mem_digits hs hn.whole) hfraction

theorem sign_ne_mark (hs : sign = '+' ∨ sign = '-') (he : e.Proper Char.isDigit) :
    sign ≠ e.mark := by
  rintro rfl
  rcases he.mark with hm | hm <;> rw [hm] at hs <;> simp at hs

theorem exponent_of_sign (hs : sign = '+' ∨ sign = '-') (hn : n.Proper Char.isDigit)
    (hm : sign ∈ n.text) : ∃ e ∈ n.exponent, e.sign = some sign := by
  rw [Number.Numeral.text, ← List.append_assoc, List.mem_append,
    or_iff_right (sign_not_mem_front hs hn)] at hm
  cases he : n.exponent with
  | none =>
    rw [he] at hm
    cases hm
  | some e =>
    have hproper := hn.exponent e he
    rw [he, Number.exponentText, Number.Exponent.text, List.mem_cons, List.mem_append,
      or_iff_right (sign_ne_mark hs hproper),
      or_iff_left (sign_not_mem_digits hs hproper.digits), Option.mem_toList] at hm
    exact ⟨e, rfl, hm⟩

theorem IsLiteral.signsExponent (h : IsLiteral l) (hl : l = before ++ sign :: digits)
    (hs : sign = '+' ∨ sign = '-') : SignsExponent before sign digits := by
  obtain ⟨n, hn, rfl⟩ := h
  obtain ⟨e, he, hsign⟩ := exponent_of_sign hs hn (by simp [hl])
  have hproper := hn.exponent e he
  have htext : n.text =
      n.whole ++ Number.fractionText n.fraction ++ [e.mark] ++ sign :: e.digits := by
    simp [Number.Numeral.text, Option.mem_def.1 he, Number.exponentText, Number.Exponent.text,
      hsign]
  have hfront : sign ∉ n.whole ++ Number.fractionText n.fraction ++ [e.mark] :=
    List.not_mem_append (sign_not_mem_front hs hn)
      (fun hm => sign_ne_mark hs hproper (List.mem_singleton.1 hm))
  rw [htext] at hl
  obtain ⟨hbefore, -, hdigits⟩ :=
    (List.append_cons_inj_of_notMem hfront (sign_not_mem_digits hs hproper.digits)).1 hl
  exact ⟨n, hn, e, he, hbefore, hsign, hdigits⟩

end

theorem isWordPart_of_isIdentifierStart (h : Text.isIdentifierStart c = true) :
    isWordPart c = true := by
  simp only [Text.isIdentifierStart, isWordPart, Bool.or_eq_true] at *
  rcases h with h | h
  · exact .inl (.inl h)
  · exact .inr (Text.isAlphanumeric_of_isAlpha h)

theorem isWordPart_of_startsNumeral (h : startsNumeral c after = true) :
    isWordPart c = true := by
  simp only [startsNumeral, isWordPart, Bool.or_eq_true, Bool.and_eq_true] at *
  rcases h with h | ⟨h, -⟩
  · exact .inr (Text.isAlphanumeric_of_isDecimalDigit (Text.isDecimalDigit_of_isDigit h))
  · exact .inl (.inr h)

theorem SymbolTable.not_word (ht : SymbolTable symbols) (hs : s ∈ symbols)
    (hm : s.toList <+: c :: after) : isWordPart c = false := by
  have hne : s.toList ≠ [] := by simpa using ht.nonempty s hs
  exact ht.wordless s hs c (by rw [eq_cons_drop_one hm hne]; exact List.mem_cons_self)

/-- No symbol goes on where a lexeme ends, if both begin at one place. -/
theorem Leads.symbol_le (ht : SymbolTable symbols) (hl : Leads sigil (· ∈ symbols) c after l)
    (hq : shape sigil c after ≠ .quotation) (hs : s ∈ symbols) (hm : s.toList <+: c :: after) :
    s.toList.length ≤ l.length := by
  have hword := ht.not_word hs hm
  rcases hl with ⟨hsh, -⟩ | ⟨hsh, -⟩ | ⟨hsh, -⟩ | ⟨hsh, -⟩ | ⟨-, hl⟩ | ⟨-, hno⟩
  · exact absurd (isWordPart_of_startsNumeral (shape_numeral hsh)) (by simp [hword])
  · exact absurd (isWordPart_of_isIdentifierStart (shape_identifier hsh)) (by simp [hword])
  · -- The symbol can be the sigil itself, but not go on into the name.
    obtain ⟨d, rest, rfl, hd⟩ := exists_cons_of_head (shape_reference hsh).2
    have hd := isWordPart_of_isIdentifierStart hd
    match hs' : s.toList with
    | [] | [_] => simp
    | c' :: d' :: rest' =>
      rw [hs'] at hm
      obtain rfl := (List.cons_prefix_cons.1 (List.cons_prefix_cons.1 hm).2).1
      have hno := ht.wordless s hs d' (by simp [hs'])
      exact absurd hd (by simp [hno])
  · exact absurd hsh hq
  · exact hl.longest _ hm (by rwa [String.ofList_toList])
  · exact absurd hs (by simpa using hno _ hm)

theorem Leads.isLiteral {IsSymbol : String → Prop} (hl : Leads sigil IsSymbol c after l)
    (hs : shape sigil c after = .numeral) : IsLiteral l := by
  cases hl with
  | numeral _ hl => exact hl.mem
  | _ hsh => cases hs.symm.trans hsh

end

namespace Registry

theorem reachable_extended (c : Config) : (Registry.extended c).Reachable :=
  (reachable_default c).insertAll (Registry.insertAll_frozen _ _) Comparison.check_registrations

namespace Reachable

/-- Splitting takes the longest lexeme of the grammar at each place. A sign only belongs to a number
with the whole exponent, and no symbol is cut short. -/
theorem lexemes_longest {r : Registry} (h : r.Reachable) :
    (∀ text answer, r.lexemes text = answer ↔
      Splits r.sigil r.HasSymbol text.toList answer) ∧
    ∀ c after l, Leads r.sigil r.HasSymbol c after l →
      (shape r.sigil c after = .numeral → ∀ before sign digits, l = before ++ sign :: digits →
        sign = '+' ∨ sign = '-' → SignsExponent before sign digits) ∧
      (shape r.sigil c after ≠ .quotation → ∀ s, r.HasSymbol s → s.toList <+: c :: after →
        s.toList.length ≤ l.length) := by
  have hsymbol : r.HasSymbol = (· ∈ r.symbols) := funext fun s => propext mem_symbols.symm
  rw [hsymbol]
  exact ⟨fun text answer => (splits_iff h.symbolTable).symm, fun c after l hl =>
    ⟨fun hs before sign digits => (hl.isLiteral hs).signsExponent,
      fun hq s => hl.symbol_le h.symbolTable hq⟩⟩

theorem lexemes_extended_longest : (Registry.extended {}).Reachable ∧
    Splits '$' (Registry.extended {}).HasSymbol ">=1e+".toList (.ok [">=", "1", "e", "+"]) := by
  have h := reachable_extended {}
  refine ⟨h, (h.lexemes_longest.1 ">=1e+" _).1 ?_⟩
  rw [Registry.lexemes, symbols_extended,
    scan_cons rfl rfl (scan_cons rfl rfl (scan_cons rfl rfl (scan_cons rfl rfl (scan_nil rfl))))]
  rfl

end Reachable

end Registry

end Reckoner
