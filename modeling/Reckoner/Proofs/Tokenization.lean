import Reckoner.Lexeme
import Reckoner.Proofs.Items

set_option autoImplicit false

namespace Reckoner

def defaultSymbols : List String := ["(", ")", "*", "+", ",", "-", "/", "^"]

theorem symbols_default (c : Config) : (Registry.default c).symbols = defaultSymbols := by
  have hsymbols : (Registry.default c).rules.filterMap (·.matcher.symbol?) =
      ["^", "/", "*", "-", "+", "(", ")", ","] := by
    rw [rules_default]
    rfl
  rw [Registry.symbols, hsymbols]
  decide +kernel

theorem lexemes_default (c : Config) (s : String) : (Registry.default c).lexemes s =
    (scan c.sigil defaultSymbols s.toList).map (·.map .ofList) := by
  rw [Registry.lexemes, symbols_default]
  rfl

theorem scan_cons {sigil : Char} {symbols : List String} {cs after tail : List Char} {c : Char}
    {ls : List (List Char)} (h : cs.dropWhile Text.isBlank = c :: after)
    (ht : lexemeTail sigil symbols c after = some tail)
    (hl : scan sigil symbols (after.drop tail.length) = .ok ls) :
    scan sigil symbols cs = .ok ((c :: tail) :: ls) := by
  rw [scan_lexeme h ht, hl]
  rfl

theorem resolveAll_cons {r : Registry} {l : String} {preceding : List Token} {t : Token}
    {ls : List String} {ts : List Token}
    (ht : r.resolve l preceding (ls.head? == some "(") = .ok t)
    (h : r.resolveAll (t :: preceding) ls = .ok ts) :
    r.resolveAll preceding (l :: ls) = .ok (t :: ts) := by
  simp only [Registry.resolveAll, ht, h]
  rfl

/-- The tokens of lexemes, one for each, after a token that was there before. -/
inductive Tokenizes (c : Config) : Option Token → List String → List Token → Prop where
  | nil (previous : Option Token) : Tokenizes c previous [] []
  | cons (item : Item) {previous : Option Token} {ls : List String} {ts : List Token} :
      item.Fits ls.head? →
      Tokenizes c (some (item.token c.strictDivision previous)) ls ts →
      Tokenizes c previous (item.lexeme c.sigil :: ls)
        (item.token c.strictDivision previous :: ts)

structure FirstUnknown (sigil : Char) (ls : List String) (i : Nat) (l : String) : Prop where
  lexeme : ls[i]? = some l
  unknown : ¬ Known sigil l ls[i + 1]?
  before : ∀ j k, j < i → ls[j]? = some k → Known sigil k ls[j + 1]?

section

variable {c : Config} {sigil : Char} {previous : Option Token} {ls : List String}
  {ts : List Token} {i j : Nat} {k l : String}

namespace Tokenizes

theorem length_eq (h : Tokenizes c previous ls ts) : ts.length = ls.length := by
  induction h with
  | nil => rfl
  | cons item _ _ ih => simp [ih]

theorem getElem? (h : Tokenizes c previous ls ts) (hl : ls[i]? = some l) :
    ∃ item : Item, item.lexeme c.sigil = l ∧ item.Fits ls[i + 1]? ∧
      ts[i]? = some (item.token c.strictDivision (previous.toList ++ ts.take i).getLast?) := by
  induction h generalizing i with
  | nil => simp at hl
  | @cons item previous ls ts hf _ ih =>
    cases i with
    | zero =>
      refine ⟨item, by simpa using hl, by simpa [List.head?_eq_getElem?] using hf, ?_⟩
      cases previous <;> rfl
    | succ i =>
      obtain ⟨item', hl', hf', ht'⟩ := ih (by simpa using hl)
      refine ⟨item', hl', by simpa using hf', ?_⟩
      simpa [List.getLast?_append, List.getLast?_cons] using ht'

theorem known (h : Tokenizes c previous ls ts) (hl : ls[i]? = some l) :
    Known c.sigil l ls[i + 1]? := by
  obtain ⟨item, hitem, hf, -⟩ := h.getElem? hl
  exact ⟨item, hitem, hf⟩

end Tokenizes

namespace FirstUnknown

theorem head (h : ¬ Known sigil l ls.head?) : FirstUnknown sigil (l :: ls) 0 l where
  lexeme := rfl
  unknown := by simpa [List.head?_eq_getElem?] using h
  before _ _ hj := absurd hj (Nat.not_lt_zero _)

theorem cons (hk : Known sigil k ls.head?) (h : FirstUnknown sigil ls i l) :
    FirstUnknown sigil (k :: ls) (i + 1) l where
  lexeme := by simpa using h.lexeme
  unknown := by simpa using h.unknown
  before j m hj hm := by
    cases j with
    | zero =>
      cases hm
      simpa [List.head?_eq_getElem?] using hk
    | succ j => exact h.before j m (by omega) (by simpa using hm)

theorem unique (hi : FirstUnknown sigil ls i k) (hj : FirstUnknown sigil ls j l) :
    i = j ∧ k = l := by
  have hij : i = j := by
    rcases Nat.lt_trichotomy i j with h | h | h
    · exact absurd (hj.before i k h hi.lexeme) hi.unknown
    · exact h
    · exact absurd (hi.before j l h hj.lexeme) hj.unknown
  subst hij
  exact ⟨rfl, Option.some.inj (hi.lexeme.symm.trans hj.lexeme)⟩

end FirstUnknown

/-- From left to right, each lexeme gets its token or is the first to be refused. -/
theorem resolveAll_cases (hs : Sigil c.sigil) (preceding : List Token) (ls : List String) :
    (∃ ts, (Registry.default c).resolveAll preceding ls = .ok ts ∧
      Tokenizes c preceding.head? ls ts) ∨
    ∃ i l, FirstUnknown c.sigil ls i l ∧
      (Registry.default c).resolveAll preceding ls = .error (refusal l ls[i + 1]?) := by
  induction ls generalizing preceding with
  | nil => exact .inl ⟨[], rfl, .nil _⟩
  | cons l ls ih =>
    by_cases hk : Known c.sigil l ls.head?
    · obtain ⟨item, rfl, hf⟩ := hk
      have hl := resolve_item hs item hf preceding
      obtain ⟨ts, hts, htokens⟩ | ⟨i, l, hfirst, herror⟩ :=
        ih (item.token c.strictDivision preceding.head? :: preceding)
      · exact .inl ⟨item.token c.strictDivision preceding.head? :: ts,
          resolveAll_cons hl hts, .cons item hf htokens⟩
      · refine .inr ⟨i + 1, l, hfirst.cons ⟨item, rfl, hf⟩, ?_⟩
        simp only [Registry.resolveAll, hl, herror, List.getElem?_cons_succ]
        rfl
    · have hl := resolve_unknown hk preceding
      refine .inr ⟨0, l, .head hk, ?_⟩
      simp only [Registry.resolveAll, hl]
      simp [List.head?_eq_getElem?]

/-- A text of the default language has a token for each lexeme, or is refused at the first lexeme
that is no item of the language. -/
theorem tokens_default (hc : c.validate = .ok ()) (s : String) :
    (∀ e, (Registry.default c).lexemes s = .error e → (Registry.default c).tokens s = .error e) ∧
    ∀ ls, (Registry.default c).lexemes s = .ok ls →
      ((∃ ts, (Registry.default c).tokens s = .ok ts) ↔
        ∀ i l, ls[i]? = some l → Known c.sigil l ls[i + 1]?) ∧
      (∀ ts, (Registry.default c).tokens s = .ok ts → ts.length = ls.length ∧
        ∀ i l, ls[i]? = some l → ∃ item : Item, item.lexeme c.sigil = l ∧
          item.Fits ls[i + 1]? ∧
          ts[i]? = some (item.token c.strictDivision (ts.take i).getLast?)) ∧
      ∀ e, (Registry.default c).tokens s = .error e ↔
        ∃ i l, FirstUnknown c.sigil ls i l ∧ e = refusal l ls[i + 1]? := by
  refine ⟨fun e he => by simp only [Registry.tokens, he], fun ls hls => ?_⟩
  have htokens : (Registry.default c).tokens s = (Registry.default c).resolveAll [] ls := by
    simp only [Registry.tokens, hls]
  rw [htokens]
  obtain ⟨ts, hts, h⟩ | ⟨i, l, hfirst, herror⟩ :=
    resolveAll_cases (Config.sigil_of_validate hc) [] ls
  · rw [hts]
    refine ⟨⟨fun _ i l => h.known, fun _ => ⟨ts, rfl⟩⟩, fun us hus => ?_, fun e => ⟨nofun, ?_⟩⟩
    · cases hus
      exact ⟨h.length_eq, fun i l => h.getElem?⟩
    · rintro ⟨i, l, hfirst, -⟩
      exact absurd (h.known hfirst.lexeme) hfirst.unknown
  · rw [herror]
    refine ⟨⟨nofun, fun hk => ?_⟩, nofun, fun e => ⟨fun he => ?_, ?_⟩⟩
    · exact absurd (hk i l hfirst.lexeme) hfirst.unknown
    · exact ⟨i, l, hfirst, (Except.error.inj he).symm⟩
    · rintro ⟨j, k, hj, rfl⟩
      obtain ⟨rfl, rfl⟩ := hfirst.unique hj
      rfl

end

theorem tokens_default_minus : ({ sigil := '-' } : Config).validate = .ok () ∧
    (Registry.default { sigil := '-' }).lexemes "2--x" = .ok ["2", "-", "-x"] ∧
    ∃ ts, (Registry.default { sigil := '-' }).tokens "2--x" = .ok ts ∧ ts.length = 3 := by
  have hc : ({ sigil := '-' } : Config).validate = .ok () := by decide
  have hs : (Registry.default { sigil := '-' }).lexemes "2--x" = .ok ["2", "-", "-x"] := by
    rw [lexemes_default, scan_cons rfl rfl (scan_cons rfl rfl (scan_cons rfl rfl (scan_nil rfl)))]
    rfl
  obtain ⟨hok, htokens, -⟩ := (tokens_default hc "2--x").2 _ hs
  have hnumber : Known '-' "2" (some "-") :=
    ⟨.number ⟨['2'], none, none⟩ (Number.Numeral.proper_digit rfl), rfl, trivial⟩
  have hminus : Known '-' "-" (some "-x") := ⟨.sign .minus, rfl, trivial⟩
  have hvar : Known '-' "-x" none := ⟨.var "x" (by decide), rfl, trivial⟩
  obtain ⟨ts, hts⟩ := hok.2 fun i l hl => by
    match i with
    | 0 => cases hl; exact hnumber
    | 1 => cases hl; exact hminus
    | 2 => cases hl; exact hvar
    | i + 3 => cases hl
  exact ⟨hc, hs, ts, hts, (htokens ts hts).1⟩

end Reckoner
