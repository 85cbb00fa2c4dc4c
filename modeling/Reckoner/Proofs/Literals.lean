import Reckoner.Matcher

set_option autoImplicit false

namespace Reckoner

namespace Number

def isNumeralMark (c : Char) : Bool := ['.', '+', '-', 'e', 'E'].contains c

def isNumeralPart (digit : Char → Bool) (c : Char) : Bool := digit c || isNumeralMark c

variable {p q : Char → Bool} {c : Char} {cs : List Char}

theorem takeWhile_parts (digit : Char → Bool) (cs : List Char) :
    ∀ c ∈ cs.takeWhile digit, isNumeralPart digit c = true := by
  intro c hc
  have hd : digit c = true := List.all_eq_true.1 List.all_takeWhile c hc
  rw [isNumeralPart, hd, Bool.true_or]

theorem takeFraction_parts (digit : Char → Bool) (cs : List Char) :
    ∀ c ∈ fractionText (takeFraction digit cs).1, isNumeralPart digit c = true := by
  cases cs with
  | nil => exact List.forall_mem_nil _
  | cons c cs =>
    by_cases h : c = '.'
    · simp only [takeFraction, if_pos h, fractionText, List.forall_mem_cons]
      exact ⟨Bool.or_true _, takeWhile_parts digit cs⟩
    · simp only [takeFraction, if_neg h, fractionText]
      exact List.forall_mem_nil _

theorem takeSign_parts (digit : Char → Bool) (cs : List Char) :
    ∀ c ∈ (takeSign cs).1.toList, isNumeralPart digit c = true := by
  cases cs with
  | nil => exact List.forall_mem_nil _
  | cons c cs =>
    by_cases h : c = '+' ∨ c = '-'
    · simp only [takeSign, if_pos h, Option.toList_some, List.forall_mem_singleton]
      rcases h with rfl | rfl
      · exact Bool.or_true _
      · exact Bool.or_true _
    · simp only [takeSign, if_neg h]
      exact List.forall_mem_nil _

theorem takeExponent_parts (digit : Char → Bool) (cs : List Char) :
    ∀ c ∈ exponentText (takeExponent digit cs).1, isNumeralPart digit c = true := by
  cases cs with
  | nil => exact List.forall_mem_nil _
  | cons c cs =>
    simp only [takeExponent]
    split
    · next h =>
      simp only [exponentText, Exponent.text, List.forall_mem_cons, List.forall_mem_append]
      refine ⟨?_, takeSign_parts digit cs, takeWhile_parts digit _⟩
      rcases h.1 with rfl | rfl
      · exact Bool.or_true _
      · exact Bool.or_true _
    · exact List.forall_mem_nil _

theorem take_parts (digit : Char → Bool) (cs : List Char) :
    ∀ c ∈ (Numeral.take digit cs).1.text, isNumeralPart digit c = true := by
  simp only [Numeral.take, Numeral.text, List.forall_mem_append]
  exact ⟨takeWhile_parts digit cs, takeFraction_parts digit _, takeExponent_parts digit _⟩

theorem isNumeral_parts (h : isNumeral p cs = true) : ∀ c ∈ cs, isNumeralPart p c = true := by
  simp only [isNumeral, Bool.and_eq_true, List.isEmpty_iff] at h
  have ht := Numeral.take_text p cs
  rw [h.1, List.append_nil] at ht
  rw [← ht]
  exact take_parts p cs

theorem takeWhile_congr (h : ∀ c ∈ cs, p c = q c) : cs.takeWhile p = cs.takeWhile q := by
  induction cs with
  | nil => rfl
  | cons c cs ih =>
    obtain ⟨hc, hcs⟩ := List.forall_mem_cons.1 h
    simp only [List.takeWhile_cons, hc, ih hcs]

theorem dropWhile_congr (h : ∀ c ∈ cs, p c = q c) : cs.dropWhile p = cs.dropWhile q := by
  induction cs with
  | nil => rfl
  | cons c cs ih =>
    obtain ⟨hc, hcs⟩ := List.forall_mem_cons.1 h
    simp only [List.dropWhile_cons, hc, ih hcs]

theorem takeFraction_congr (h : ∀ c ∈ cs, p c = q c) : takeFraction p cs = takeFraction q cs := by
  cases cs with
  | nil => rfl
  | cons c cs =>
    obtain ⟨_, hcs⟩ := List.forall_mem_cons.1 h
    simp only [takeFraction, takeWhile_congr hcs, dropWhile_congr hcs]

theorem takeExponent_congr (h : ∀ c ∈ cs, p c = q c) : takeExponent p cs = takeExponent q cs := by
  cases cs with
  | nil => rfl
  | cons c cs =>
    have hrest : ∀ d ∈ (takeSign cs).2, p d = q d := by
      intro d hd
      refine h d (List.mem_cons_of_mem c ?_)
      rw [← takeSign_text cs]
      exact List.mem_append_right _ hd
    simp only [takeExponent, takeWhile_congr hrest, dropWhile_congr hrest]

theorem take_congr (h : ∀ c ∈ cs, p c = q c) : Numeral.take p cs = Numeral.take q cs := by
  have hdrop : ∀ c ∈ cs.dropWhile q, p c = q c := fun c hc =>
    h c ((List.dropWhile_sublist q).mem hc)
  have hfraction : ∀ c ∈ (takeFraction q (cs.dropWhile q)).2, p c = q c := by
    intro c hc
    refine hdrop c ?_
    rw [← takeFraction_text q (cs.dropWhile q)]
    exact List.mem_append_right _ hc
  simp only [Numeral.take, takeWhile_congr h, dropWhile_congr h, takeFraction_congr hdrop,
    takeExponent_congr hfraction]

theorem isNumeral_isDecimalDigit (h : isNumeral Char.isDigit cs = true) :
    isNumeral Text.isDecimalDigit cs = true := by
  have hsame : ∀ c ∈ cs, Text.isDecimalDigit c = c.isDigit := by
    intro c hc
    have hpart := isNumeral_parts h c hc
    cases hd : c.isDigit with
    | true => exact Text.isDecimalDigit_of_isDigit hd
    | false =>
      rw [isNumeralPart, hd, Bool.false_or, isNumeralMark, List.contains_iff_mem] at hpart
      simp only [List.mem_cons, List.not_mem_nil, or_false] at hpart
      rcases hpart with rfl | rfl | rfl | rfl | rfl <;> rfl
  rw [isNumeral, take_congr hsame]
  exact h

theorem isNumeral_cons (h : isNumeral p (c :: cs) = true) : p c = true ∨ c = '.' := by
  by_cases hc : p c = true
  · exact .inl hc
  · by_cases hdot : c = '.'
    · exact .inr hdot
    · simp [isNumeral, Numeral.take, hc, takeFraction, hdot, Numeral.hasDigit] at h

end Number

theorem isQuotedText_iff {cs : List Char} :
    isQuotedText cs = true ↔ ∃ text, '"' ∉ text ∧ cs = '"' :: (text ++ ['"']) := by
  constructor
  · intro h
    cases cs with
    | nil => cases h
    | cons c cs =>
      simp only [isQuotedText, Bool.and_eq_true, beq_iff_eq] at h
      refine ⟨cs.takeWhile (· ≠ '"'), fun hm => ?_, ?_⟩
      · have hne := List.all_eq_true.1 List.all_takeWhile '"' hm
        simp at hne
      · rw [h.1, ← h.2, List.takeWhile_append_dropWhile]
  · rintro ⟨text, hm, rfl⟩
    have hne : ∀ c ∈ text, decide (c ≠ '"') = true := fun c hc =>
      decide_eq_true fun e => hm (e ▸ hc)
    simp only [isQuotedText, List.dropWhile_append_of_pos hne]
    rfl

theorem isReference_iff {sigil : Char} {cs : List Char} :
    isReference sigil cs = true ↔ ∃ name, Text.isIdentifier name = true ∧ cs = sigil :: name := by
  cases cs with
  | nil => simp [isReference]
  | cons c cs =>
    simp only [isReference, Bool.and_eq_true, beq_iff_eq, List.cons.injEq]
    constructor
    · rintro ⟨rfl, h⟩
      exact ⟨cs, h, rfl, rfl⟩
    · rintro ⟨name, h, rfl, rfl⟩
      exact ⟨rfl, h⟩

end Reckoner
