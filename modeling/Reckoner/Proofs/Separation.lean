import Reckoner.Proofs.LongestMatch

set_option autoImplicit false

namespace Reckoner

/-- These lexemes with blanks between any two of them, and perhaps around them. -/
inductive Spaced : List String → List Char → Prop where
  | none {w : List Char} : Blank w → Spaced [] w
  | last {w v : List Char} {l : String} : Blank w → Blank v → Spaced [l] (w ++ l.toList ++ v)
  | next {w v cs : List Char} {l : String} {ls : List String} : Blank w → v ≠ [] → Blank v →
      Spaced ls cs → Spaced (l :: ls) (w ++ l.toList ++ v ++ cs)

def Unblank (L : List Char → Prop) : Prop := ∀ m, L m → ∀ c ∈ m, Text.isBlank c = false

section

variable {L : List Char → Prop} {IsSymbol : String → Prop} {cs l m after rest tail v w : List Char}
  {c d sigil : Char} {s : String} {answer : Except Error (List String)} {ls : List String}

theorem unblank_isLiteral : Unblank IsLiteral := by
  rintro m ⟨n, hn, rfl⟩ c hc
  have hpart := Number.isNumeral_parts ((Number.isNumeral_iff Number.apart_isDigit).2 ⟨n, hn, rfl⟩)
    c hc
  simp only [Number.isNumeralPart, Number.isNumeralMark, Bool.or_eq_true,
    List.contains_iff_mem, List.mem_cons, List.not_mem_nil, or_false] at hpart
  rcases hpart with hd | rfl | rfl | rfl | rfl | rfl
  · exact Text.not_isBlank_of_isDigit hd
  all_goals decide

theorem unblank_isName : Unblank IsName := by
  intro m hm c hc
  cases m with
  | nil => cases hc
  | cons d m =>
    simp only [IsName, Text.isIdentifier, Bool.and_eq_true, List.all_eq_true] at hm
    rcases List.mem_cons.1 hc with rfl | hc
    · exact Text.not_isBlank_of_isIdentifierPart (Text.isIdentifierPart_of_start hm.1)
    · exact Text.not_isBlank_of_isIdentifierPart (hm.2 c hc)

theorem prefix_before_blank (hd : Text.isBlank d = true) (hm : m <+: cs ++ d :: rest)
    (hu : ∀ c ∈ m, Text.isBlank c = false) : m <+: cs := by
  rcases Nat.lt_or_ge cs.length m.length with hlt | hle
  · -- A longer part would have the blank in it.
    have hfront : cs ++ [d] <+: cs ++ d :: rest := ⟨rest, by simp⟩
    have hcs : cs ++ [d] <+: m :=
      List.prefix_of_prefix_length_le hfront hm (by simpa using Nat.succ_le_of_lt hlt)
    have hblank := hu d (hcs.subset (by simp))
    rw [hd] at hblank
    cases hblank
  · exact List.prefix_of_prefix_length_le hm (List.prefix_append _ _) hle

namespace Longest

theorem before_blank (hL : Unblank L) (h : Longest L cs l) (hd : Text.isBlank d = true)
    (rest : List Char) : Longest L (cs ++ d :: rest) l :=
  ⟨h.front.trans (List.prefix_append _ _), h.mem,
    fun m hm hmem => h.longest m (prefix_before_blank hd hm (hL m hmem)) hmem⟩

theorem alone (h : Longest L cs l) : Longest L l l := whole h.mem

end Longest

/-- A blank after the first character tells as much as the end of the text. -/
theorem shape_before_blank (hd : Text.isBlank d = true) (rest : List Char) :
    shape sigil c (after ++ d :: rest) = shape sigil c after := by
  cases after with
  | cons => rfl
  | nil =>
    have hdigit : d.isDigit = false := by
      by_contra h
      have hno := Text.not_isBlank_of_isDigit (Bool.eq_true_of_not_eq_false h)
      rw [hd] at hno
      cases hno
    have hstart : Text.isIdentifierStart d = false := by
      by_contra h
      have hno := Text.not_isBlank_of_isIdentifierPart
        (Text.isIdentifierPart_of_start (Bool.eq_true_of_not_eq_false h))
      rw [hd] at hno
      cases hno
    simp [shape, startsNumeral, hdigit, hstart]

theorem IsLiteral.starts (h : IsLiteral (c :: after)) : startsNumeral c after = true := by
  obtain ⟨⟨whole, fraction, exponent⟩, hn, htext⟩ := h
  match whole, fraction with
  | d :: ds, _ =>
    have hd : d = c := (List.cons.inj htext).1
    rw [startsNumeral, ← hd, hn.whole d List.mem_cons_self, Bool.true_or]
  | [], some (d :: ds) =>
    obtain ⟨hdot, hafter⟩ := List.cons.inj htext
    have hd : d.isDigit = true := hn.fraction _ rfl d List.mem_cons_self
    simp [startsNumeral, ← hdot, ← hafter, hd]
  | [], some [] => simpa using hn.hasDigit
  | [], none => simpa using hn.hasDigit

theorem shape_nil (hn : shape sigil c after ≠ .numeral) (hr : shape sigil c after ≠ .reference) :
    shape sigil c [] = shape sigil c after := by
  simp only [shape, startsNumeral] at *
  grind

theorem shape_front {k : Shape} (hs : shape sigil c after = k) (hfront : tail <+: after)
    (hn : k ≠ .numeral) (hr : tail = [] → k ≠ .reference) : shape sigil c tail = k := by
  subst hs
  obtain ⟨rest, rfl⟩ := hfront
  cases tail with
  | nil => exact shape_nil hn (hr rfl)
  | cons => rfl

namespace Leads

theorem before_blank (hsymbol : Unblank fun m => IsSymbol (.ofList m))
    (h : Leads sigil IsSymbol c after l) (hd : Text.isBlank d = true) (rest : List Char) :
    Leads sigil IsSymbol c (after ++ d :: rest) l := by
  have hshape : shape sigil c (after ++ d :: rest) = shape sigil c after :=
    shape_before_blank hd rest
  cases h with
  | numeral hs hl => exact .numeral (hshape.trans hs) (hl.before_blank unblank_isLiteral hd rest)
  | identifier hs hl => exact .identifier (hshape.trans hs) (hl.before_blank unblank_isName hd rest)
  | reference hs hl => exact .reference (hshape.trans hs) (hl.before_blank unblank_isName hd rest)
  | @quotation text later hs hq hafter =>
    have hlonger : after ++ d :: rest = text ++ '"' :: (later ++ d :: rest) := by simp [hafter]
    exact .quotation (hshape.trans hs) hq hlonger
  | symbol hs hl => exact .symbol (hshape.trans hs) (hl.before_blank hsymbol hd rest)
  | single hs hno =>
    exact .single (hshape.trans hs) fun m hm hmem =>
      hno m (prefix_before_blank hd hm (hsymbol m hmem)) hmem

theorem alone (h : Leads sigil IsSymbol c after (c :: tail)) (hfront : tail <+: after) :
    Leads sigil IsSymbol c tail (c :: tail) := by
  cases h with
  | numeral hs hl => exact .numeral (if_pos hl.mem.starts) hl.alone
  | identifier hs hl => exact .identifier (shape_front hs hfront nofun nofun) hl.alone
  | reference hs hl =>
    have hne : tail ≠ [] := by
      rintro rfl
      exact Bool.false_ne_true hl.mem
    exact .reference (shape_front hs hfront nofun fun he => absurd he hne) hl.alone
  | quotation hs hq => exact .quotation (shape_front hs hfront nofun nofun) hq rfl
  | symbol hs hl => exact .symbol (shape_front hs hfront nofun nofun) hl.alone
  | single hs hno =>
    refine .single (shape_front hs hfront nofun nofun) fun m hm => hno m ?_
    exact hm.trans (List.cons_prefix_cons.2 ⟨rfl, hfront⟩)

theorem front {symbols : List String} (ht : SymbolTable symbols)
    (h : Leads sigil (· ∈ symbols) c after l) : ∃ tail, l = c :: tail ∧ tail <+: after := by
  obtain ⟨tail, htail, rfl⟩ := h.taken ht
  have hfront := lexemeTail_prefix htail
  exact ⟨tail, rfl, hfront⟩

end Leads

namespace Splits

theorem ok_lexeme (h : answer.map (s :: ·) = .ok ls) :
    ∃ later, answer = .ok later ∧ ls = s :: later := by
  cases answer with
  | error e => cases h
  | ok later => exact ⟨later, rfl, (Except.ok.inj h).symm⟩

theorem blanks_append (hv : Blank v) (h : Splits sigil IsSymbol cs answer) :
    Splits sigil IsSymbol (v ++ cs) answer := by
  cases h with
  | blank hw => exact .blank (List.forall_mem_append.2 ⟨hv, hw⟩)
  | lexeme hw hc hl hrest h =>
    rw [← List.append_assoc]
    exact .lexeme (List.forall_mem_append.2 ⟨hv, hw⟩) hc hl hrest h
  | unclosed hw hc hs hq =>
    rw [← List.append_assoc]
    exact .unclosed (List.forall_mem_append.2 ⟨hv, hw⟩) hc hs hq

/-- What stands before a blank is split as if nothing came after it. -/
theorem append (hsymbol : Unblank fun m => IsSymbol (.ofList m))
    (h : Splits sigil IsSymbol cs (.ok ls)) (hne : v ≠ []) (hv : Blank v)
    (hrest : Splits sigil IsSymbol rest answer) :
    Splits sigil IsSymbol (cs ++ v ++ rest) (answer.map (ls ++ ·)) := by
  generalize hok : Except.ok ls = first at h
  induction h generalizing ls with
  | blank hw =>
    cases hok
    have hmap : answer.map (([] : List String) ++ ·) = answer := by cases answer <;> rfl
    rw [hmap]
    exact hrest.blanks_append (List.forall_mem_append.2 ⟨hw, hv⟩)
  | @lexeme w after l later c _ hw hc hl hafter _ ih =>
    obtain ⟨ls, rfl, rfl⟩ := ok_lexeme hok.symm
    -- To the first lexeme, the first blank of `v` is what the end of the text was.
    obtain ⟨d, v, rfl⟩ := List.exists_cons_of_ne_nil hne
    have hlead := hl.before_blank hsymbol (hv d List.mem_cons_self) (v ++ rest)
    have hparts : c :: (after ++ d :: (v ++ rest)) = l ++ (later ++ d :: v ++ rest) := by
      rw [← List.cons_append, hafter]
      simp
    have hmap : answer.map (.ofList l :: ls ++ ·) =
        (answer.map (ls ++ ·)).map (.ofList l :: ·) := by cases answer <;> rfl
    rw [hmap]
    simpa using lexeme hw hc hlead hparts (ih rfl)
  | unclosed => cases hok

theorem alone {symbols : List String} (ht : SymbolTable symbols)
    (h : Splits sigil (· ∈ symbols) cs (.ok ls)) :
    ∀ l ∈ ls, Splits sigil (· ∈ symbols) l.toList (.ok [l]) := by
  generalize hok : Except.ok ls = first at h
  induction h generalizing ls with
  | blank hw =>
    cases hok
    exact List.forall_mem_nil _
  | @lexeme w after l later c _ hw hc hl hafter _ ih =>
    obtain ⟨ls, rfl, rfl⟩ := ok_lexeme hok.symm
    obtain ⟨tail, rfl, hfront⟩ := hl.front ht
    refine List.forall_mem_cons.2 ⟨?_, ih rfl⟩
    rw [String.toList_ofList]
    exact lexeme (List.forall_mem_nil _) hc (hl.alone hfront) (List.append_nil _).symm
      (.blank (List.forall_mem_nil _))
  | unclosed => cases hok

theorem of_spaced (hsymbol : Unblank fun m => IsSymbol (.ofList m))
    (hl : ∀ l ∈ ls, Splits sigil IsSymbol l.toList (.ok [l])) (h : Spaced ls cs) :
    Splits sigil IsSymbol cs (.ok ls) := by
  induction h with
  | none hw => exact .blank hw
  | @last w v l hw hv =>
    have hone := hl l List.mem_cons_self
    rw [List.append_assoc]
    refine blanks_append hw ?_
    by_cases hne : v = []
    · rwa [hne, List.append_nil]
    · have hend := hone.append hsymbol hne hv (.blank (List.forall_mem_nil _))
      rwa [List.append_nil] at hend
  | @next w v cs l ls hw hne hv _ ih =>
    obtain ⟨hone, hls⟩ := List.forall_mem_cons.1 hl
    rw [List.append_assoc w, List.append_assoc w]
    exact (hone.append hsymbol hne hv (ih hls)).blanks_append hw

end Splits

end

namespace Registry

theorem lexemes_iff {r : Registry} (h : r.Reachable) {s : String}
    {answer : Except Error (List String)} :
    r.lexemes s = answer ↔ Splits r.sigil (· ∈ r.symbols) s.toList answer :=
  (splits_iff h.symbolTable).symm

theorem tokens_congr {r : Registry} {s t : String} (h : r.lexemes s = r.lexemes t) :
    r.tokens s = r.tokens t := by
  rw [tokens, tokens, h]

/-- What a text with blanks in it is split into, is read off its parts. A lexeme is one by itself
too, and a text with the same lexemes in any spacing has the same meaning. -/
theorem Reachable.lexemes_separated {r : Registry} (h : r.Reachable) :
    (∀ a w b la, w ≠ "" → Blank w.toList → r.lexemes a = .ok la →
      r.lexemes (a ++ w ++ b) = (r.lexemes b).map (la ++ ·)) ∧
    (∀ s ls, r.lexemes s = .ok ls → ∀ l ∈ ls, r.lexemes l = .ok [l]) ∧
    ∀ s ls t, r.lexemes s = .ok ls → Spaced ls t.toList →
      r.lexemes t = .ok ls ∧ r.tokens t = r.tokens s ∧
        ∀ maxDepth, Expression.compile r maxDepth t = Expression.compile r maxDepth s := by
  have hsymbol : Unblank fun m => String.ofList m ∈ r.symbols := fun m hm c hc =>
    h.symbolTable.unblank _ hm c (by rwa [String.toList_ofList])
  have halone : ∀ s ls, r.lexemes s = .ok ls → ∀ l ∈ ls, r.lexemes l = .ok [l] := by
    intro s ls hs l hl
    exact (lexemes_iff h).2 (((lexemes_iff h).1 hs).alone h.symbolTable l hl)
  refine ⟨fun a w b la hne hw ha => ?_, halone, fun s ls t hs ht => ?_⟩
  · rw [lexemes_iff h, String.toList_append, String.toList_append]
    have hne : w.toList ≠ [] := by simpa using hne
    exact ((lexemes_iff h).1 ha).append hsymbol hne hw ((lexemes_iff h).1 rfl)
  · have hlexemes : r.lexemes t = .ok ls := (lexemes_iff h).2
      (.of_spaced hsymbol (fun l hl => (lexemes_iff h).1 (halone s ls hs l hl)) ht)
    have htokens : r.tokens t = r.tokens s := tokens_congr (hlexemes.trans hs.symm)
    refine ⟨hlexemes, htokens, fun maxDepth => ?_⟩
    rw [Expression.compile, Expression.compile, htokens]

theorem Reachable.lexemes_extended_separated : (extended {}).Reachable ∧
    (extended {}).lexemes "x>=1e" = .ok ["x", ">=", "1", "e"] ∧
    (extended {}).lexemes ("x>=1e" ++ " " ++ "5") = .ok ["x", ">=", "1", "e", "5"] ∧
    (extended {}).tokens "x >=\t1 e" = (extended {}).tokens "x>=1e" := by
  have h := reachable_extended {}
  obtain ⟨happend, -, hspaced⟩ := h.lexemes_separated
  have hfront : (extended {}).lexemes "x>=1e" = .ok ["x", ">=", "1", "e"] := by
    rw [lexemes, symbols_extended,
      scan_cons rfl rfl (scan_cons rfl rfl (scan_cons rfl rfl (scan_cons rfl rfl (scan_nil rfl))))]
    rfl
  have hrest : (extended {}).lexemes "5" = .ok ["5"] := by
    rw [lexemes, symbols_extended, scan_cons rfl rfl (scan_nil rfl)]
    rfl
  have hnone : Blank [] := List.forall_mem_nil _
  have hspace : Blank [' '] := List.forall_mem_singleton.2 rfl
  have htab : Blank ['\t'] := List.forall_mem_singleton.2 rfl
  have htext : Spaced ["x", ">=", "1", "e"] ([] ++ ['x'] ++ [' '] ++
      ([] ++ ['>', '='] ++ ['\t'] ++ ([] ++ ['1'] ++ [' '] ++ ([] ++ ['e'] ++ [])))) :=
    .next hnone (List.cons_ne_nil _ _) hspace <| .next hnone (List.cons_ne_nil _ _) htab <|
      .next hnone (List.cons_ne_nil _ _) hspace <| .last hnone hnone
  refine ⟨h, hfront, ?_, ?_⟩
  · rw [happend "x>=1e" " " "5" _ (by decide) (List.forall_mem_singleton.2 rfl) hfront, hrest]
    rfl
  · exact (hspaced _ _ "x >=\t1 e" hfront htext).2.1

end Registry

end Reckoner
