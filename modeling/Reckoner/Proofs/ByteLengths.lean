import Reckoner.Proofs.Separation

/-! Splitting by lengths in bytes. A scanner that looks at the bytes of a text finds where its first
lexeme ends as an offset, and goes on from there. The offset is that of the lexeme, so that it is
never zero, never past the end and never inside a character. The lexemes and the blanks between them
make up the text.
-/

set_option autoImplicit false

namespace Reckoner

def utf8 (cs : List Char) : List UInt8 := cs.flatMap String.utf8EncodeChar

def byteSize (cs : List Char) : Nat := (utf8 cs).length

def isDigitByte (b : UInt8) : Bool := decide ('0'.toNat ≤ b.toNat ∧ b.toNat ≤ '9'.toNat)

def digitsFrom (bytes : List UInt8) (i : Nat) : Nat :=
  ((bytes.drop i).takeWhile isDigitByte).length

def fractionEnd (bytes : List UInt8) (i : Nat) : Nat :=
  if bytes[i]? = some '.'.toUInt8 then i + 1 + digitsFrom bytes (i + 1) else i

def signEnd (bytes : List UInt8) (i : Nat) : Nat :=
  if bytes[i]? = some '+'.toUInt8 ∨ bytes[i]? = some '-'.toUInt8 then i + 1 else i

/-- Goes back to the mark where no digit comes after it. -/
def exponentEnd (bytes : List UInt8) (i : Nat) : Nat :=
  if bytes[i]? = some 'e'.toUInt8 ∨ bytes[i]? = some 'E'.toUInt8 then
    let start := signEnd bytes (i + 1)
    let count := digitsFrom bytes start
    if 0 < count then start + count else i
  else i

def numeralLength (bytes : List UInt8) : Nat :=
  exponentEnd bytes (fractionEnd bytes (digitsFrom bytes 0))

def charIndices (i : Nat) : List Char → List (Nat × Char)
  | [] => []
  | c :: cs => (i, c) :: charIndices (i + c.utf8Size) cs

def offset? (p : Char → Bool) (cs : List Char) : Option Nat :=
  ((charIndices 0 cs).find? fun e => p e.2).map (·.1)

def nameLength (cs : List Char) : Nat :=
  (offset? (fun c => !Text.isIdentifierPart c) cs).getD (byteSize cs)

/-- The length of the first lexeme in bytes; `none` if a quotation is not closed. -/
def lexemeLength? (sigil : Char) (symbols : List String) (c : Char) (after : List Char) :
    Option Nat :=
  match shape sigil c after with
  | .numeral => some (numeralLength (utf8 (c :: after)))
  | .identifier => some (nameLength (c :: after))
  | .reference => some (c.utf8Size + nameLength after)
  | .quotation => (offset? (· == '"') after).map (· + 2)
  | .symbol =>
    match longestSymbol? symbols (c :: after) with
    | some s => some s.utf8ByteSize
    | none => some c.utf8Size

/-- The loop that splits what is left of a text after its blanks. A length that is no boundary of a
character has no step, and lengths of zero would never come to an end. -/
inductive ByteScan (sigil : Char) (symbols : List String) :
    List Char → Except Error (List String) → Prop where
  | done : ByteScan sigil symbols [] (.ok [])
  | unclosed {c : Char} {after : List Char} : lexemeLength? sigil symbols c after = none →
      ByteScan sigil symbols (c :: after) (.error (.unknownToken (.ofList (c :: after))))
  | lexeme {c : Char} {after l rest : List Char} {answer : Except Error (List String)} :
      c :: after = l ++ rest → lexemeLength? sigil symbols c after = some (byteSize l) →
      ByteScan sigil symbols (rest.dropWhile Text.isBlank) answer →
      ByteScan sigil symbols (c :: after) (answer.map (.ofList l :: ·))

/-- These lexemes with blanks, or nothing, around them make up a text. -/
inductive Spells : List String → List Char → Prop where
  | blank {w : List Char} : Blank w → Spells [] w
  | lexeme {w cs : List Char} {l : String} {ls : List String} : Blank w → Spells ls cs →
      Spells (l :: ls) (w ++ l.toList ++ cs)

def Solid (l : String) : Prop :=
  l ≠ "" ∧ ((∃ text, '"' ∉ text ∧ l.toList = '"' :: (text ++ ['"'])) ∨
    ∀ c ∈ l.toList, Text.isBlank c = false)

section

variable {c d sigil : Char} {cs front after l m rest : List Char} {p : UInt8 → Bool}
  {q : Char → Bool} {symbols : List String} {answer : Except Error (List String)}

theorem utf8_append (cs rest : List Char) : utf8 (cs ++ rest) = utf8 cs ++ utf8 rest :=
  List.flatMap_append

theorem utf8_cons (c : Char) (cs : List Char) :
    utf8 (c :: cs) = String.utf8EncodeChar c ++ utf8 cs := List.flatMap_cons

theorem byteSize_append (cs rest : List Char) :
    byteSize (cs ++ rest) = byteSize cs + byteSize rest := by
  simp only [byteSize, utf8_append, List.length_append]

theorem byteSize_cons (c : Char) (cs : List Char) :
    byteSize (c :: cs) = c.utf8Size + byteSize cs := by
  rw [byteSize, utf8_cons, List.length_append, String.length_utf8EncodeChar, byteSize]

theorem byteSize_toList (s : String) : byteSize s.toList = s.utf8ByteSize := by
  conv_rhs => rw [← String.ofList_toList (s := s)]
  rw [← String.size_toByteArray, String.toByteArray_ofList]
  simp [List.utf8Encode, byteSize, utf8]

theorem toNat_toUInt8 (h : c.toNat < 128) : c.toUInt8.toNat = c.toNat := by
  have hmod : c.toNat % 256 = c.toNat := Nat.mod_eq_of_lt (by omega)
  exact (UInt32.toNat_toUInt8 c.val).trans hmod

theorem utf8EncodeChar_ascii (h : c.toNat < 128) : String.utf8EncodeChar c = [c.toUInt8] := by
  have hv : c.val.toNat ≤ 127 := Nat.le_of_lt_succ h
  simp only [String.utf8EncodeChar, if_pos hv]
  rfl

theorem utf8EncodeChar_other (h : 128 ≤ c.toNat) :
    ∃ b bs, String.utf8EncodeChar c = b :: bs ∧ 128 ≤ b.toNat := by
  have hv : ¬ c.val.toNat ≤ 127 := Nat.not_le.2 h
  simp only [String.utf8EncodeChar, if_neg hv]
  split_ifs
  · exact ⟨_, _, rfl, by simp; omega⟩
  · exact ⟨_, _, rfl, by simp; omega⟩
  · exact ⟨_, _, rfl, by simp; omega⟩

/-- A test of bytes that accepts the ASCII characters of a test, and nothing else. -/
structure Reflects (p : UInt8 → Bool) (q : Char → Bool) : Prop where
  ascii : ∀ c : Char, c.toNat < 128 → p c.toUInt8 = q c
  char : ∀ c : Char, 128 ≤ c.toNat → q c = false
  byte : ∀ b : UInt8, 128 ≤ b.toNat → p b = false

namespace Reflects

theorem isDigit : Reflects isDigitByte Char.isDigit where
  ascii c hc := by
    rw [isDigitByte, toNat_toUInt8 hc, Bool.eq_iff_iff, decide_eq_true_eq]
    simp only [Char.isDigit, Bool.and_eq_true, decide_eq_true_eq, ge_iff_le,
      UInt32.le_iff_toNat_le]
    rfl
  char c hc := by
    cases h : c.isDigit with
    | false => rfl
    | true =>
      have hbounds := Text.toNat_of_isDigit h
      omega
  byte b hb := by
    have hnine : '9'.toNat = 57 := rfl
    exact decide_eq_false fun h => by omega

theorem eq (ha : d.toNat < 128) : Reflects (· == d.toUInt8) (· == d) where
  ascii c hc := by
    rw [Bool.eq_iff_iff, beq_iff_eq, beq_iff_eq, ← UInt8.toNat_inj, toNat_toUInt8 hc,
      toNat_toUInt8 ha, Char.toNat_inj]
  char c hc := by
    refine beq_false_of_ne fun h => ?_
    subst h
    omega
  byte b hb := by
    refine beq_false_of_ne fun h => ?_
    rw [h, toNat_toUInt8 ha] at hb
    omega

theorem takeWhile (h : Reflects p q) (cs : List Char) :
    (utf8 cs).takeWhile p = utf8 (cs.takeWhile q) := by
  induction cs with
  | nil => rfl
  | cons c cs ih =>
    rw [utf8_cons]
    rcases Nat.lt_or_ge c.toNat 128 with hc | hc
    · rw [utf8EncodeChar_ascii hc, List.singleton_append, List.takeWhile_cons, h.ascii c hc,
        List.takeWhile_cons]
      cases q c with
      | false => rfl
      | true => simp [ih, utf8_cons, utf8EncodeChar_ascii hc]
    · obtain ⟨b, bs, hbytes, hb⟩ := utf8EncodeChar_other hc
      rw [hbytes, List.cons_append, List.takeWhile_cons, h.byte b hb, List.takeWhile_cons,
        h.char c hc]
      rfl

theorem head (h : Reflects p q) (cs : List Char) : (utf8 cs).head?.any p = cs.head?.any q := by
  cases cs with
  | nil => rfl
  | cons c cs =>
    rw [utf8_cons]
    rcases Nat.lt_or_ge c.toNat 128 with hc | hc
    · rw [utf8EncodeChar_ascii hc]
      exact h.ascii c hc
    · obtain ⟨b, bs, hbytes, hb⟩ := utf8EncodeChar_other hc
      rw [hbytes]
      exact (h.byte b hb).trans (h.char c hc).symm

end Reflects

theorem digitsFrom_eq (front cs : List Char) :
    digitsFrom (utf8 (front ++ cs)) (byteSize front) = byteSize (cs.takeWhile Char.isDigit) := by
  rw [digitsFrom, utf8_append, byteSize, List.drop_left, Reflects.isDigit.takeWhile, byteSize]

theorem byte_eq_iff (ha : d.toNat < 128) (front cs : List Char) :
    (utf8 (front ++ cs))[byteSize front]? = some d.toUInt8 ↔ cs.head? = some d := by
  rw [utf8_append, byteSize, List.getElem?_append_right (Nat.le_refl _), Nat.sub_self,
    ← List.head?_eq_getElem?]
  have hhead := (Reflects.eq ha).head cs
  rw [Bool.eq_iff_iff, Option.any_eq_true, Option.any_eq_true] at hhead
  simpa using hhead

theorem byteSize_cons_ascii (ha : d.toNat < 128) (cs : List Char) :
    byteSize (d :: cs) = byteSize cs + 1 := by
  rw [byteSize, utf8_cons, utf8EncodeChar_ascii ha]
  rfl

theorem byteSize_snoc (ha : d.toNat < 128) (front : List Char) :
    byteSize front + 1 = byteSize (front ++ [d]) := by
  rw [byteSize_append, byteSize_cons_ascii ha]
  rfl

theorem fractionEnd_eq (front cs : List Char) :
    fractionEnd (utf8 (front ++ cs)) (byteSize front) =
      byteSize (front ++ Number.fractionText (Number.takeFraction Char.isDigit cs).1) := by
  have hdot : '.'.toNat < 128 := by decide
  simp only [fractionEnd, byte_eq_iff hdot]
  cases cs with
  | nil => simp [Number.takeFraction, Number.fractionText]
  | cons c cs =>
    by_cases hc : c = '.'
    · subst hc
      have hdigits := digitsFrom_eq (front ++ ['.']) cs
      rw [← List.append_cons] at hdigits
      rw [if_pos List.head?_cons, byteSize_snoc hdot, hdigits, ← byteSize_append,
        ← List.append_cons]
      rfl
    · simp [Number.takeFraction, Number.fractionText, hc]

theorem signEnd_eq (front cs : List Char) : signEnd (utf8 (front ++ cs)) (byteSize front) =
    byteSize (front ++ (Number.takeSign cs).1.toList) := by
  have hplus : '+'.toNat < 128 := by decide
  have hminus : '-'.toNat < 128 := by decide
  simp only [signEnd, byte_eq_iff hplus, byte_eq_iff hminus]
  cases cs with
  | nil => simp [Number.takeSign]
  | cons c cs =>
    by_cases hc : c = '+' ∨ c = '-'
    · have hascii : c.toNat < 128 := by rcases hc with rfl | rfl <;> assumption
      simp [Number.takeSign, hc, byteSize_snoc hascii]
    · simp [Number.takeSign, hc]

theorem byteSize_pos (h : cs ≠ []) : 0 < byteSize cs := by
  obtain ⟨c, cs, rfl⟩ := List.exists_cons_of_ne_nil h
  rw [byteSize_cons]
  exact Nat.add_pos_left c.utf8Size_pos _

theorem exponentEnd_eq (front cs : List Char) :
    exponentEnd (utf8 (front ++ cs)) (byteSize front) =
      byteSize (front ++ Number.exponentText (Number.takeExponent Char.isDigit cs).1) := by
  have hlower : 'e'.toNat < 128 := by decide
  have hupper : 'E'.toNat < 128 := by decide
  simp only [exponentEnd, byte_eq_iff hlower, byte_eq_iff hupper]
  cases cs with
  | nil => simp [Number.takeExponent, Number.exponentText]
  | cons c cs =>
    by_cases hc : c = 'e' ∨ c = 'E'
    · -- The digits are looked for behind the mark and the sign, if there is one.
      have hascii : c.toNat < 128 := by rcases hc with rfl | rfl <;> assumption
      have hdigits := digitsFrom_eq (front ++ [c] ++ (Number.takeSign cs).1.toList)
        (Number.takeSign cs).2
      rw [List.append_assoc (front ++ [c]), Number.takeSign_text] at hdigits
      rw [if_pos (by simpa using hc), byteSize_snoc hascii, List.append_cons, signEnd_eq, hdigits]
      simp only [Number.takeExponent]
      by_cases hne : (Number.takeSign cs).2.takeWhile Char.isDigit = []
      · simp [hne, byteSize, utf8, Number.exponentText]
      · rw [if_pos (byteSize_pos hne), if_pos ⟨hc, hne⟩, ← byteSize_append]
        simp [Number.exponentText, Number.Exponent.text]
    · simp [Number.takeExponent, Number.exponentText, hc]

theorem numeralLength_eq (cs : List Char) : numeralLength (utf8 cs) =
    byteSize (Number.Numeral.take Char.isDigit cs).1.text := by
  have hwhole : digitsFrom (utf8 cs) 0 = byteSize (cs.takeWhile Char.isDigit) := digitsFrom_eq [] cs
  have hfraction := fractionEnd_eq (cs.takeWhile Char.isDigit) (cs.dropWhile Char.isDigit)
  rw [List.takeWhile_append_dropWhile] at hfraction
  have hexponent := exponentEnd_eq (cs.takeWhile Char.isDigit ++ Number.fractionText
    (Number.takeFraction Char.isDigit (cs.dropWhile Char.isDigit)).1)
    (Number.takeFraction Char.isDigit (cs.dropWhile Char.isDigit)).2
  rw [List.append_assoc, Number.takeFraction_text, List.takeWhile_append_dropWhile] at hexponent
  rw [numeralLength, hwhole, hfraction, hexponent, List.append_assoc]
  rfl

theorem find?_charIndices (q : Char → Bool) (i : Nat) (cs : List Char) :
    ((charIndices i cs).find? fun e => q e.2).map (·.1) =
      if cs.any q then some (i + byteSize (cs.takeWhile (!q ·))) else none := by
  induction cs generalizing i with
  | nil => rfl
  | cons c cs ih =>
    rw [charIndices, List.find?_cons]
    cases hq : q c with
    | true => simp [hq, byteSize, utf8]
    | false => simp [hq, ih, byteSize_cons, Nat.add_assoc]

theorem offset?_eq (q : Char → Bool) (cs : List Char) : offset? q cs =
    if cs.any q then some (byteSize (cs.takeWhile (!q ·))) else none := by
  rw [offset?, find?_charIndices, Nat.zero_add]

theorem nameLength_eq (cs : List Char) :
    nameLength cs = byteSize (cs.takeWhile Text.isIdentifierPart) := by
  rw [nameLength, offset?_eq]
  by_cases hall : ∀ c ∈ cs, Text.isIdentifierPart c = true
  · have hno : ¬ (cs.any fun c => !Text.isIdentifierPart c) = true := by simpa using hall
    rw [if_neg hno, List.takeWhile_eq_self_iff.2 hall]
    rfl
  · have hany : (cs.any fun c => !Text.isIdentifierPart c) = true := by simpa using hall
    rw [if_pos hany]
    simp

theorem quotationLength_eq (after : List Char) : (offset? (· == '"') after).map (· + 2) =
    if '"' ∈ after then some (byteSize ('"' :: (after.takeWhile (· ≠ '"') ++ ['"'])))
    else none := by
  have hmark : '"'.toNat < 128 := by decide
  have hsize (cs : List Char) : byteSize ('"' :: (cs ++ ['"'])) = byteSize cs + 2 := by
    rw [byteSize_cons_ascii hmark, ← byteSize_snoc hmark]
  rw [offset?_eq]
  by_cases hm : '"' ∈ after
  · have hany : after.any (· == '"') = true := List.any_beq'.trans (List.contains_iff_mem.2 hm)
    rw [if_pos hany, if_pos hm, hsize]
    simp only [decide_not]
    rfl
  · have hany : ¬ after.any (· == '"') = true := by simpa using hm
    rw [if_neg hany, if_neg hm]
    rfl

/-- The offset of the end is the length of the lexeme. -/
theorem lexemeLength?_eq (hne : "" ∉ symbols) : lexemeLength? sigil symbols c after =
    (lexemeTail sigil symbols c after).map fun tail => byteSize (c :: tail) := by
  rw [lexemeTail_eq, lexemeLength?]
  cases hs : shape sigil c after with
  | numeral =>
    have hl := longest_literal (shape_numeral hs)
    simp only [numeralLength_eq, Option.map_some]
    rw [← eq_cons_drop_one hl.front hl.mem.ne_nil]
  | identifier =>
    have hpart := Text.isIdentifierPart_of_start (shape_identifier hs)
    simp only [nameLength_eq, Option.map_some]
    rw [List.takeWhile_cons, if_pos hpart]
  | reference => simp only [nameLength_eq, Option.map_some, byteSize_cons]
  | quotation =>
    rw [shape_quotation hs]
    simp only [quotationLength_eq]
    split_ifs <;> rfl
  | symbol =>
    cases hf : longestSymbol? symbols (c :: after) with
    | none => simp [byteSize, utf8]
    | some s =>
      have hfront := List.isPrefixOf_iff_prefix.1 (List.find?_eq_some_iff_append.1 hf).1
      have hmem : s ∈ symbols := List.mem_of_find?_eq_some hf
      have hs : s.toList ≠ [] := by
        rintro he
        have hempty : s = "" := by simpa using he
        exact hne (hempty ▸ hmem)
      simp only [Option.map_some, Option.getD_some]
      rw [← eq_cons_drop_one hfront hs, byteSize_toList]

theorem eq_nil_of_byteSize (h : byteSize cs = 0) : cs = [] := by
  by_contra hne
  exact absurd h (Nat.ne_of_gt (byteSize_pos hne))

theorem eq_of_byteSize (hl : l <+: cs) (hm : m <+: cs) (h : byteSize l = byteSize m) : l = m := by
  have hshort {l m : List Char} (hlm : l <+: m) (h : byteSize l = byteSize m) : l = m := by
    obtain ⟨more, rfl⟩ := hlm
    rw [byteSize_append] at h
    rw [eq_nil_of_byteSize (by omega : byteSize more = 0), List.append_nil]
  rcases List.prefix_or_prefix_of_prefix hl hm with hlm | hml
  · exact hshort hlm h
  · exact (hshort hml h.symm).symm

namespace ByteScan

theorem scan_eq (hne : "" ∉ symbols) (h : ByteScan sigil symbols front answer) (cs : List Char)
    (hcs : cs.dropWhile Text.isBlank = front) :
    (scan sigil symbols cs).map (·.map .ofList) = answer := by
  induction h generalizing cs with
  | done =>
    rw [scan_nil hcs]
    rfl
  | unclosed hl =>
    rw [lexemeLength?_eq hne, Option.map_eq_none_iff] at hl
    rw [scan_unclosed hcs hl]
    rfl
  | @lexeme c after l rest answer hparts hl _ ih =>
    rw [lexemeLength?_eq hne, Option.map_eq_some_iff] at hl
    obtain ⟨tail, htail, hsize⟩ := hl
    have hfront := lexemeTail_prefix htail
    -- The length tells the part of the text, since no other front part has it.
    obtain rfl := eq_of_byteSize (List.cons_prefix_cons.2 ⟨rfl, hfront⟩) ⟨rest, hparts.symm⟩ hsize
    have hafter : after = tail ++ rest := (List.cons.inj hparts).2
    rw [scan_lexeme hcs htail, hafter, List.drop_left, ← ih rest rfl]
    cases scan sigil symbols rest <;> rfl

theorem of_scan (hne : "" ∉ symbols) (sigil : Char) (cs : List Char) :
    ByteScan sigil symbols (cs.dropWhile Text.isBlank)
      ((scan sigil symbols cs).map (·.map .ofList)) := by
  fun_induction scan sigil symbols cs with
  | case1 cs hd =>
    rw [hd]
    exact .done
  | case2 cs c after hd hnone =>
    rw [hd]
    exact .unclosed (by rw [lexemeLength?_eq hne, hnone]; rfl)
  | case3 cs c after hd tail htail ih =>
    have hfront := lexemeTail_prefix htail
    have hparts : c :: after = (c :: tail) ++ after.drop tail.length :=
      congrArg _ (List.prefix_append_drop hfront)
    have hl : lexemeLength? sigil symbols c after = some (byteSize (c :: tail)) := by
      rw [lexemeLength?_eq hne, htail, Option.map_some]
    have hloop := lexeme hparts hl ih
    rw [hd]
    cases hscan : scan sigil symbols (after.drop tail.length) with
    | error e => rwa [hscan] at hloop
    | ok ls => rwa [hscan] at hloop

/-- The loop comes to an end, with what splitting answers. -/
theorem iff_scan (hne : "" ∉ symbols) : ByteScan sigil symbols (cs.dropWhile Text.isBlank) answer ↔
    (scan sigil symbols cs).map (·.map .ofList) = answer := by
  constructor
  · intro h
    exact h.scan_eq hne cs rfl
  · rintro rfl
    exact of_scan hne sigil cs

end ByteScan

theorem lexemeLength?_bounds (hne : "" ∉ symbols) {n : Nat}
    (h : lexemeLength? sigil symbols c after = some n) :
    1 ≤ n ∧ ∃ l rest, c :: after = l ++ rest ∧ byteSize l = n := by
  rw [lexemeLength?_eq hne, Option.map_eq_some_iff] at h
  obtain ⟨tail, htail, rfl⟩ := h
  have hfront := lexemeTail_prefix htail
  obtain ⟨rest, hrest⟩ := List.cons_prefix_cons.2 ⟨rfl, hfront⟩
  exact ⟨byteSize_pos (List.cons_ne_nil c tail), c :: tail, rest, hrest.symm, rfl⟩

theorem Leads.solid (ht : SymbolTable symbols) (hc : Text.isBlank c = false)
    (h : Leads sigil (· ∈ symbols) c after l) : Solid (.ofList l) := by
  obtain ⟨tail, rfl, -⟩ := h.front ht
  refine ⟨by simp, ?_⟩
  rw [String.toList_ofList]
  cases h with
  | numeral _ hl => exact .inr (unblank_isLiteral _ hl.mem)
  | identifier _ hl => exact .inr (unblank_isName _ hl.mem)
  | reference _ hl => exact .inr (List.forall_mem_cons.2 ⟨hc, unblank_isName _ hl.mem⟩)
  | quotation hs hq => exact .inl ⟨_, hq, by rw [shape_quotation hs]⟩
  | symbol _ hl =>
    have hunblank := ht.unblank _ hl.mem
    rw [String.toList_ofList] at hunblank
    exact .inr hunblank
  | single => exact .inr (List.forall_mem_singleton.2 hc)

/-- A text is split without loss, or refused at a quotation mark that is not closed. -/
theorem Splits.spells (ht : SymbolTable symbols) (h : Splits sigil (· ∈ symbols) cs answer) :
    (∃ ls, answer = .ok ls ∧ Spells ls cs ∧ ∀ l ∈ ls, Solid l) ∨
      ∃ before after, cs = before ++ '"' :: after ∧ '"' ∉ after ∧
        answer = .error (.unknownToken (.ofList ('"' :: after))) := by
  induction h with
  | blank hw => exact .inl ⟨[], rfl, .blank hw, List.forall_mem_nil _⟩
  | @lexeme w after l rest c answer hw hc hl hparts _ ih =>
    rw [hparts, ← List.append_assoc]
    obtain ⟨ls, rfl, hspells, hsolid⟩ | ⟨before, last, rfl, hq, rfl⟩ := ih
    · refine .inl ⟨_, rfl, ?_, List.forall_mem_cons.2 ⟨hl.solid ht hc, hsolid⟩⟩
      simpa using Spells.lexeme (l := .ofList l) hw hspells
    · exact .inr ⟨w ++ l ++ before, last, by simp, hq, rfl⟩
  | @unclosed w after c hw hc hs hq =>
    rw [shape_quotation hs]
    exact .inr ⟨w, after, rfl, hq, rfl⟩

end

namespace Registry

/-- The loop that goes on by lengths in bytes comes to an end on every text. Each length that it
finds is that of a front part of what is left, and the lexemes lose nothing but blanks. -/
theorem Reachable.lexemes_lossless {r : Registry} (h : r.Reachable) (text : String) :
    (∀ c after n, lexemeLength? r.sigil r.symbols c after = some n →
      1 ≤ n ∧ ∃ l rest, c :: after = l ++ rest ∧ byteSize l = n) ∧
    (∀ answer, ByteScan r.sigil r.symbols (text.toList.dropWhile Text.isBlank) answer ↔
      r.lexemes text = answer) ∧
    ((∃ ls, r.lexemes text = .ok ls ∧ Spells ls text.toList ∧ ∀ l ∈ ls, Solid l) ∨
      ∃ before after, text = before ++ "\"" ++ after ∧ '"' ∉ after.toList ∧
        r.lexemes text = .error (.unknownToken ("\"" ++ after))) := by
  have hne : "" ∉ r.symbols := fun hm => h.symbolTable.nonempty "" hm rfl
  refine ⟨fun c after n => lexemeLength?_bounds hne, fun answer => ByteScan.iff_scan hne, ?_⟩
  obtain hok | ⟨before, after, htext, hq, herror⟩ :=
    ((lexemes_iff h).1 (Eq.refl (r.lexemes text))).spells h.symbolTable
  · exact .inl hok
  · refine .inr ⟨.ofList before, .ofList after, ?_, by simpa using hq, ?_⟩
    · rw [← String.toList_inj, htext]
      simp
    · have hrest : String.ofList ('"' :: after) = "\"" ++ .ofList after := by
        rw [← String.toList_inj]
        simp
      rw [herror, hrest]

/-- A character of two bytes, an exponent without digits and a quotation with a blank. -/
theorem Reachable.lexemes_extended_lossless : (extended {}).Reachable ∧
    ByteScan (extended {}).sigil (extended {}).symbols "é>=1e\"a b\"".toList
      (.ok ["é", ">=", "1", "e", "\"a b\""]) := by
  have h := reachable_extended {}
  have hlexemes : (extended {}).lexemes "é>=1e\"a b\"" =
      .ok ["é", ">=", "1", "e", "\"a b\""] := by
    rw [lexemes, symbols_extended, scan_cons rfl rfl (scan_cons rfl rfl (scan_cons rfl rfl
      (scan_cons rfl rfl (scan_cons rfl rfl (scan_nil rfl)))))]
    rfl
  exact ⟨h, ((h.lexemes_lossless "é>=1e\"a b\"").2.1 _).2 hlexemes⟩

end Registry

end Reckoner
