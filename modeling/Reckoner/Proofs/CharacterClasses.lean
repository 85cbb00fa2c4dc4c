import Mathlib.Data.List.Chain
import Reckoner.Config
import Reckoner.Text.Blank
import Reckoner.Text.DecimalDigit
import Reckoner.Text.Identifier

set_option autoImplicit false

namespace Reckoner

theorem CodePoints.contains_of_combine {as bs : List Nat} (ha : as.IsChain (· < ·))
    (hb : bs.IsChain (· < ·)) (h : combine (fun a b => a && !b) false false as bs = []) {c : Char}
    (hc : contains as c = true) : contains bs c = true := by
  have hw := within_combine (fun a b => a && !b) c.toNat false false as bs
    (List.isChain_iff_pairwise.1 ha) (List.isChain_iff_pairwise.1 hb)
  simp only [contains] at hc ⊢
  rw [h, hc] at hw
  simpa [within] using hw

namespace Text

variable {c : Char}

theorem isAlphanumeric_of_isDecimalDigit (h : isDecimalDigit c = true) :
    isAlphanumeric c = true := by
  have hn : isNumeric c = true :=
    CodePoints.contains_of_combine (by decide +kernel) (by decide +kernel) (by decide +kernel) h
  rw [isAlphanumeric, hn, Bool.or_true]

theorem toNat_of_isAlpha (h : c.isAlpha = true) :
    (65 ≤ c.toNat ∧ c.toNat ≤ 90) ∨ (97 ≤ c.toNat ∧ c.toNat ≤ 122) := by
  have hval : (decide ('A'.val ≤ c.val ∧ c.val ≤ 'Z'.val) ||
      decide ('a'.val ≤ c.val) && decide (c.val ≤ 'z'.val)) = true := h
  simp only [Bool.or_eq_true, Bool.and_eq_true, decide_eq_true_eq,
    UInt32.le_iff_toNat_le] at hval
  exact hval

theorem isAlphanumeric_of_isAlpha (h : c.isAlpha = true) : isAlphanumeric c = true := by
  have hletter : CodePoints.contains [0x41, 0x5B, 0x61, 0x7B] c = true := by
    have hbounds := toNat_of_isAlpha h
    simp [CodePoints.contains, CodePoints.within]
    omega
  have ha : isAlphabetic c = true :=
    CodePoints.contains_of_combine (by decide +kernel) (by decide +kernel) (by decide +kernel)
      hletter
  rw [isAlphanumeric, ha, Bool.true_or]

/-- Identifiers begin between the ASCII digits and the digits of other scripts. -/
theorem not_isDecimalDigit_of_isIdentifierStart (h : isIdentifierStart c = true) :
    isDecimalDigit c = false := by
  have hlow : ¬ c.toNat < 0x30 ∧ ¬ c.toNat < 0x3A ∧ c.toNat < 0x660 := by
    simp only [isIdentifierStart, Bool.or_eq_true, beq_iff_eq] at h
    rcases h with rfl | h
    · decide
    · have hbounds := toNat_of_isAlpha h
      omega
  rw [isDecimalDigit, CodePoints.contains, decimalDigitSwitches, CodePoints.within,
    if_neg hlow.1, CodePoints.within, if_neg hlow.2.1, CodePoints.within, if_pos hlow.2.2]
  rfl

theorem toNat_of_isDigit (h : c.isDigit = true) : 48 ≤ c.toNat ∧ c.toNat ≤ 57 := by
  simp only [Char.isDigit, Bool.and_eq_true, decide_eq_true_eq, ge_iff_le,
    UInt32.le_iff_toNat_le] at h
  exact h

theorem not_isBlank_of_lt (hl : 0x21 ≤ c.toNat) (hh : c.toNat < 0x85) : isBlank c = false := by
  have hlow : ¬ c.toNat < 0x9 ∧ ¬ c.toNat < 0xE ∧ ¬ c.toNat < 0x20 ∧ ¬ c.toNat < 0x21 := by omega
  obtain ⟨h9, hE, h20, h21⟩ := hlow
  simp [isBlank, CodePoints.contains, blankSwitches, CodePoints.within, h9, hE, h20, h21, hh]

theorem not_isBlank_of_isDigit (h : c.isDigit = true) : isBlank c = false := by
  have hbounds := toNat_of_isDigit h
  exact not_isBlank_of_lt (by omega) (by omega)

theorem not_isBlank_of_isIdentifierPart (h : isIdentifierPart c = true) : isBlank c = false := by
  simp only [isIdentifierPart, Char.isAlphanum, Bool.or_eq_true, beq_iff_eq] at h
  rcases h with rfl | h | h
  · decide
  · have hbounds := toNat_of_isAlpha h
    exact not_isBlank_of_lt (by omega) (by omega)
  · exact not_isBlank_of_isDigit h

end Text

/-- What a character that introduces variables is not. -/
structure Sigil (c : Char) : Prop where
  notDigit : Text.isDecimalDigit c = false
  notStart : Text.isIdentifierStart c = false
  notMark : c ≠ '.' ∧ c ≠ '"'

theorem sigil_of_isSigil {c : Char} (h : isSigil c = true) : Sigil c := by
  simp only [isSigil, Bool.not_eq_true', Bool.or_eq_false_iff] at h
  obtain ⟨⟨hword, -⟩, hmark⟩ := h
  have hne (d : Char) (hd : d ∈ ['_', '.', '"', '(', ')', ',']) : c ≠ d := by
    rintro rfl
    rw [List.contains_iff_mem.2 hd] at hmark
    cases hmark
  refine ⟨?_, ?_, hne _ (by decide), hne _ (by decide)⟩
  · cases hd : Text.isDecimalDigit c with
    | false => rfl
    | true => rw [Text.isAlphanumeric_of_isDecimalDigit hd] at hword; cases hword
  · cases ha : c.isAlpha with
    | false => simp [Text.isIdentifierStart, ha, hne '_' (by decide)]
    | true => rw [Text.isAlphanumeric_of_isAlpha ha] at hword; cases hword

theorem Config.sigil_of_validate {config : Config} (h : config.validate = .ok ()) :
    Sigil config.sigil := by
  cases hs : isSigil config.sigil with
  | true => exact sigil_of_isSigil hs
  | false => simp [validate, hs] at h

end Reckoner
