import Reckoner.Proofs.Literals

set_option autoImplicit false

namespace Reckoner.Number

structure Exponent.Proper (digit : Char → Bool) (e : Exponent) : Prop where
  mark : e.mark = 'e' ∨ e.mark = 'E'
  sign : ∀ c ∈ e.sign, c = '+' ∨ c = '-'
  digits : ∀ c ∈ e.digits, digit c = true
  hasDigit : e.digits ≠ []

/-- The form `D+ (. D*)?` or `. D+`, and perhaps an exponent after it. -/
structure Numeral.Proper (digit : Char → Bool) (n : Numeral) : Prop where
  whole : ∀ c ∈ n.whole, digit c = true
  fraction : ∀ ds ∈ n.fraction, ∀ c ∈ ds, digit c = true
  hasDigit : n.whole ≠ [] ∨ n.fraction.getD [] ≠ []
  exponent : ∀ e ∈ n.exponent, e.Proper digit

theorem Numeral.hasDigit_iff (n : Numeral) :
    n.hasDigit = true ↔ n.whole ≠ [] ∨ n.fraction.getD [] ≠ [] := by
  simp only [hasDigit, Bool.not_eq_true', List.isEmpty_eq_false_iff, ne_eq,
    List.append_eq_nil_iff, Classical.not_and_iff_not_or_not]

section

variable {digit : Char → Bool} {cs ds rest : List Char} {c : Char}

theorem Numeral.proper_digit (h : digit c = true) :
    (⟨[c], none, none⟩ : Numeral).Proper digit where
  whole := List.forall_mem_singleton.2 h
  fraction _ hds := nomatch hds
  hasDigit := .inl (List.cons_ne_nil _ _)
  exponent _ he := nomatch he

theorem takeWhile_digits (cs : List Char) : ∀ c ∈ cs.takeWhile digit, digit c = true :=
  List.all_eq_true.1 List.all_takeWhile

theorem takeFraction_digits {fraction : List Char}
    (h : fraction ∈ (takeFraction digit cs).1) : ∀ c ∈ fraction, digit c = true := by
  cases cs with
  | nil => cases h
  | cons c cs =>
    simp only [takeFraction] at h
    split at h
    · cases h
      exact takeWhile_digits cs
    · cases h

theorem takeSign_sign {sign : Char} (h : sign ∈ (takeSign cs).1) : sign = '+' ∨ sign = '-' := by
  cases cs with
  | nil => cases h
  | cons c cs =>
    simp only [takeSign] at h
    split at h
    · next hc =>
      cases h
      exact hc
    · cases h

theorem takeExponent_proper {e : Exponent} (h : e ∈ (takeExponent digit cs).1) :
    e.Proper digit := by
  cases cs with
  | nil => cases h
  | cons c cs =>
    simp only [takeExponent] at h
    split at h
    · next hc =>
      cases h
      exact ⟨hc.1, fun _ => takeSign_sign, takeWhile_digits _, hc.2⟩
    · cases h

theorem proper_take (h : (Numeral.take digit cs).1.hasDigit = true) :
    (Numeral.take digit cs).1.Proper digit :=
  ⟨takeWhile_digits cs, fun _ => takeFraction_digits, (Numeral.hasDigit_iff _).1 h,
    fun _ => takeExponent_proper⟩

theorem take_proper (h : isNumeral digit cs = true) : (Numeral.take digit cs).1.Proper digit := by
  simp only [isNumeral, Bool.and_eq_true] at h
  exact proper_take h.2

theorem take_text_of_isNumeral (h : isNumeral digit cs = true) :
    (Numeral.take digit cs).1.text = cs := by
  simp only [isNumeral, Bool.and_eq_true, List.isEmpty_iff] at h
  have ht := Numeral.take_text digit cs
  rwa [h.1, List.append_nil] at ht

theorem span_digits (hd : ∀ c ∈ ds, digit c = true) (hr : ∀ c ∈ rest.head?, digit c = false) :
    (ds ++ rest).takeWhile digit = ds ∧ (ds ++ rest).dropWhile digit = rest := by
  rw [List.takeWhile_append_of_pos hd, List.dropWhile_append_of_pos hd]
  cases rest with
  | nil => simp
  | cons c rest => simp [hr c rfl]

def Apart (digit : Char → Bool) : Prop := ∀ c, isNumeralMark c = true → digit c = false

theorem apart_of_marks (h : ['.', '+', '-', 'e', 'E'].any digit = false) : Apart digit :=
  fun c hc => Bool.eq_false_iff.2 (List.any_eq_false.1 h c (List.contains_iff_mem.1 hc))

theorem apart_isDigit : Apart Char.isDigit := apart_of_marks rfl

theorem apart_isDecimalDigit : Apart Text.isDecimalDigit := apart_of_marks rfl

theorem takeSign_digits (hdigit : Apart digit) {sign : Option Char} {ds : List Char}
    (hs : ∀ c ∈ sign, c = '+' ∨ c = '-') (hd : ∀ d ∈ ds, digit d = true) (hne : ds ≠ [])
    (rest : List Char) : takeSign (sign.toList ++ (ds ++ rest)) = (sign, ds ++ rest) := by
  cases sign with
  | some c => simp [takeSign, hs c rfl]
  | none =>
    -- The digits begin with none of the signs.
    obtain ⟨d, ds, rfl⟩ := List.exists_cons_of_ne_nil hne
    have hd : digit d = true := hd d List.mem_cons_self
    have hplus : d ≠ '+' := fun h => by rw [h, hdigit '+' rfl] at hd; cases hd
    have hminus : d ≠ '-' := fun h => by rw [h, hdigit '-' rfl] at hd; cases hd
    simp [takeSign, hplus, hminus]

theorem takeExponent_text_append (hdigit : Apart digit) {e : Exponent} (h : e.Proper digit)
    (rest : List Char) : takeExponent digit (e.text ++ rest) =
      (some ⟨e.mark, e.sign, e.digits ++ rest.takeWhile digit⟩, rest.dropWhile digit) := by
  have hsign := takeSign_digits hdigit h.sign h.digits h.hasDigit rest
  have htake : (e.digits ++ rest).takeWhile digit = e.digits ++ rest.takeWhile digit :=
    List.takeWhile_append_of_pos h.digits
  have hdrop : (e.digits ++ rest).dropWhile digit = rest.dropWhile digit :=
    List.dropWhile_append_of_pos h.digits
  simp [Exponent.text, takeExponent, hsign, htake, hdrop, h.mark, h.hasDigit]

theorem takeFraction_text_append {ds : List Char} (hd : ∀ d ∈ ds, digit d = true)
    (rest : List Char) : takeFraction digit ('.' :: (ds ++ rest)) =
      (some (ds ++ rest.takeWhile digit), rest.dropWhile digit) := by
  simp [takeFraction, List.takeWhile_append_of_pos hd, List.dropWhile_append_of_pos hd]

theorem span_mark (hdigit : Apart digit) {c : Char} (hc : isNumeralMark c = true)
    (rest : List Char) :
    (c :: rest).takeWhile digit = [] ∧ (c :: rest).dropWhile digit = c :: rest := by
  simp [hdigit c hc]

theorem Exponent.mark_isNumeralMark {e : Exponent} (h : e.Proper digit) :
    isNumeralMark e.mark = true := by
  rcases h.mark with h | h <;> rw [h] <;> rfl

theorem head_exponentText {exponent : Option Exponent} (he : ∀ e ∈ exponent, e.Proper digit)
    (hc : c ∈ (exponentText exponent).head?) : c = 'e' ∨ c = 'E' := by
  cases exponent with
  | none => cases hc
  | some e =>
    cases hc
    exact (he e rfl).mark

theorem takeFraction_fractionText (hdigit : Apart digit) {fraction : Option (List Char)}
    {exponent : Option Exponent} (hf : ∀ ds ∈ fraction, ∀ c ∈ ds, digit c = true)
    (he : ∀ e ∈ exponent, e.Proper digit) :
    takeFraction digit (fractionText fraction ++ exponentText exponent) =
      (fraction, exponentText exponent) := by
  have hmark : ∀ c ∈ (exponentText exponent).head?, digit c = false := by
    intro c hc
    rcases head_exponentText he hc with rfl | rfl
    · exact hdigit 'e' rfl
    · exact hdigit 'E' rfl
  cases fraction with
  | some ds =>
    obtain ⟨htake, hdrop⟩ := span_digits (hf ds rfl) hmark
    simp [fractionText, takeFraction, htake, hdrop]
  | none =>
    rw [fractionText, List.nil_append]
    cases ht : exponentText exponent with
    | nil => rfl
    | cons c cs =>
      have hc : c ≠ '.' := by
        rcases head_exponentText he (by rw [ht]; rfl) with rfl | rfl <;> decide
      simp [takeFraction, hc]

theorem takeExponent_exponentText (hdigit : Apart digit) {exponent : Option Exponent}
    (he : ∀ e ∈ exponent, e.Proper digit) :
    takeExponent digit (exponentText exponent) = (exponent, []) := by
  cases exponent with
  | none => rfl
  | some e =>
    have htake := takeExponent_text_append hdigit (he e rfl) []
    simpa [exponentText] using htake

theorem parts_cases (fraction : Option (List Char)) {exponent : Option Exponent}
    (he : ∀ e ∈ exponent, e.Proper digit) :
    fractionText fraction ++ exponentText exponent = [] ∨ ∃ c cs,
      fractionText fraction ++ exponentText exponent = c :: cs ∧ isNumeralMark c = true := by
  cases fraction with
  | some ds => exact .inr ⟨'.', ds ++ exponentText exponent, rfl, rfl⟩
  | none =>
    cases exponent with
    | none => exact .inl rfl
    | some e => exact .inr ⟨e.mark, _, rfl, Exponent.mark_isNumeralMark (he e rfl)⟩

theorem Numeral.take_of_text (hdigit : Apart digit) {n : Numeral} (h : n.Proper digit) :
    take digit n.text = (n, []) := by
  have hrest : ∀ c ∈ (fractionText n.fraction ++ exponentText n.exponent).head?,
      digit c = false := by
    obtain hnone | ⟨c, cs, hmark, hc⟩ := parts_cases n.fraction h.exponent
    · simp [hnone]
    · simpa [hmark] using hdigit c hc
  obtain ⟨htake, hdrop⟩ := span_digits h.whole hrest
  simp only [take, text, htake, hdrop, takeFraction_fractionText hdigit h.fraction h.exponent,
    takeExponent_exponentText hdigit h.exponent]

/-- A text is recognized as a numeral exactly if it is the text of one. -/
theorem isNumeral_iff (hdigit : Apart digit) :
    isNumeral digit cs = true ↔ ∃ n : Numeral, n.Proper digit ∧ n.text = cs := by
  constructor
  · intro h
    exact ⟨_, take_proper h, take_text_of_isNumeral h⟩
  · rintro ⟨n, hn, rfl⟩
    simp [isNumeral, Numeral.take_of_text hdigit hn, (Numeral.hasDigit_iff n).2 hn.hasDigit]

theorem exponent_prefix_take (hdigit : Apart digit) {exponent : Option Exponent}
    (h : ∀ e ∈ exponent, e.Proper digit) (rest : List Char) :
    exponentText exponent <+:
      exponentText (takeExponent digit (exponentText exponent ++ rest)).1 := by
  cases exponent with
  | none => exact List.nil_prefix
  | some e =>
    rw [exponentText, takeExponent_text_append hdigit (h e rfl)]
    exact ⟨rest.takeWhile digit, by simp [exponentText, Exponent.text]⟩

theorem fraction_prefix_take (hdigit : Apart digit) {fraction : Option (List Char)}
    {exponent : Option Exponent} (hf : ∀ ds ∈ fraction, ∀ c ∈ ds, digit c = true)
    (he : ∀ e ∈ exponent, e.Proper digit) (rest : List Char) {taken : Option (List Char)}
    {left : List Char} (ht : takeFraction digit
      (fractionText fraction ++ (exponentText exponent ++ rest)) = (taken, left)) :
    fractionText fraction ++ exponentText exponent <+:
      fractionText taken ++ exponentText (takeExponent digit left).1 := by
  have hexponent := exponent_prefix_take hdigit he rest
  cases fraction with
  | none =>
    cases exponent with
    | none => exact List.nil_prefix
    | some e =>
      have hdot : e.mark ≠ '.' := by rcases (he e rfl).mark with h | h <;> rw [h] <;> decide
      simp only [fractionText, exponentText, Exponent.text, List.nil_append, List.cons_append,
        takeFraction, if_neg hdot, Prod.mk.injEq] at ht hexponent ⊢
      obtain ⟨rfl, rfl⟩ := ht
      exact hexponent
  | some ds =>
    rw [fractionText, List.cons_append, takeFraction_text_append (hf ds rfl)] at ht
    obtain ⟨rfl, rfl⟩ := Prod.mk.inj ht
    cases exponent with
    | none =>
      exact ⟨rest.takeWhile digit ++ exponentText (takeExponent digit (rest.dropWhile digit)).1,
        by simp [fractionText, exponentText]⟩
    | some e =>
      obtain ⟨htake, hdrop⟩ := span_mark hdigit (Exponent.mark_isNumeralMark (he e rfl))
        (e.sign.toList ++ e.digits ++ rest)
      have hmark :
          exponentText (some e) ++ rest = e.mark :: (e.sign.toList ++ e.digits ++ rest) := by
        simp [exponentText, Exponent.text]
      rw [hmark] at hexponent ⊢
      rw [htake, hdrop, List.append_nil, fractionText]
      exact (List.prefix_append_right_inj _).2 hexponent

/-- A numeral at the front of a text is part of the one that is taken. -/
theorem Numeral.text_prefix_take (hdigit : Apart digit) {n : Numeral} (h : n.Proper digit)
    (rest : List Char) : n.text <+: (take digit (n.text ++ rest)).1.text := by
  have hparts := fraction_prefix_take hdigit h.fraction h.exponent rest rfl
  simp only [take, text, List.append_assoc]
  rw [List.takeWhile_append_of_pos h.whole, List.dropWhile_append_of_pos h.whole]
  obtain hnone | ⟨c, cs, hmark, hc⟩ := parts_cases n.fraction h.exponent
  · rw [hnone, List.append_nil, List.append_assoc]
    exact List.prefix_append _ _
  · obtain ⟨htake, hkeep⟩ := span_mark hdigit hc (cs ++ rest)
    rw [← List.append_assoc (fractionText n.fraction), hmark, List.cons_append] at hparts ⊢
    rw [htake, hkeep, List.append_nil]
    exact (List.prefix_append_right_inj _).2 hparts

end

theorem read?_text {n : Numeral} (h : n.Proper Char.isDigit) : read? n.text = some n.value := by
  have hn : isNumeral Char.isDigit n.text = true := (isNumeral_iff apart_isDigit).2 ⟨n, h, rfl⟩
  simp only [read?, if_pos hn, Numeral.take_of_text apart_isDigit h]

end Reckoner.Number
