import Mathlib
import Reckoner.Number.Numeral

set_option autoImplicit false

namespace Reckoner.Number

open Float.Model (UnpackedFloat Format)
open Float.Model.UnpackedFloat (pack unpack packComponents unpackSign unpackExponent unpackMantissa)

def IsUnsigned : UnpackedFloat → Prop
  | .infinity s | .zero s | .finite s _ _ _ => s = .positive
  | .notANumber => False

def IsPositive : UnpackedFloat → Bool
  | .finite .positive _ _ _ => true
  | _ => false

def Unsigned (x : Float) : Prop := IsUnsigned x.toModel.unpack

section

variable {a b : UnpackedFloat} {x y : Float} {spec : Format}

theorem compare_swap (a b : UnpackedFloat) : b.compare a = (a.compare b).map Ordering.swap := by
  have hfinite (m n : Nat) (d e : Int) :
      (compare e d).then (compare n m) = ((compare d e).then (compare m n)).swap := by
    rw [Ordering.swap_then, ← Std.OrientedCmp.eq_swap, ← Std.OrientedCmp.eq_swap]
  rcases a with (_ | _) | _ | (_ | _) | ⟨_ | _, m, d, hm⟩ <;>
    rcases b with (_ | _) | _ | (_ | _) | ⟨_ | _, n, e, hn⟩ <;>
    first
    | rfl
    | simp only [UnpackedFloat.compare, hfinite m n d e, Option.map_some]

theorem compare_eq_none_iff : a.compare b = none ↔ a.isNaN = true ∨ b.isNaN = true := by
  rcases a with (_ | _) | _ | (_ | _) | ⟨_ | _, m, d, hm⟩ <;>
    rcases b with (_ | _) | _ | (_ | _) | ⟨_ | _, n, e, hn⟩ <;>
    simp [UnpackedFloat.compare, UnpackedFloat.isNaN]

theorem lt_iff_compare : x < y ↔ x.toModel.unpack.compare y.toModel.unpack = some .lt := by
  have h : x < y ↔ x.toModel.unpack.lt y.toModel.unpack = true := decide_eq_true_iff
  rw [h, UnpackedFloat.lt, beq_iff_eq]

theorem beq_iff_compare :
    (x == y) = true ↔ x.toModel.unpack.compare y.toModel.unpack = some .eq := by
  have h : (x == y) = x.toModel.unpack.beq y.toModel.unpack := rfl
  rw [h, UnpackedFloat.beq, beq_iff_eq]

theorem unpack_injective (h : x.toModel.unpack = y.toModel.unpack) : x = y := by
  obtain ⟨⟨⟨bits⟩, hx⟩⟩ := x
  obtain ⟨⟨⟨bits'⟩, hy⟩⟩ := y
  obtain rfl := (Float.Model.UnpackedFloat.unpack_inj_of_valid hx hy).1 h
  rfl

/-- Unsigned numbers are equal as numbers only if they are the same. -/
theorem Unsigned.beq_iff (hx : Unsigned x) (hy : Unsigned y) : (x == y) = true ↔ x = y := by
  have h : (x == y) = x.toModel.unpack.beq y.toModel.unpack := rfl
  rw [h, UnpackedFloat.beq_iff_ne_notANumber_and_eq]
  unfold Unsigned at hx hy
  constructor
  · rintro ⟨-, -, h | ⟨-, h⟩ | ⟨h, -⟩⟩
    · exact unpack_injective h
    · rw [h] at hy
      cases hy
    · rw [h] at hx
      cases hx
  · rintro rfl
    have hne : x.toModel.unpack ≠ .notANumber := fun he => by rw [he] at hx; exact hx
    exact ⟨hne, hne, .inl rfl⟩

theorem isUnsigned_components {exponent : BitVec spec.exponentBits}
    {mantissa : BitVec spec.mantissaBitsWithoutImplicit} (h : exponent = -1#_ → mantissa = 0#_) :
    IsUnsigned (unpack spec (packComponents spec .positive exponent mantissa)) := by
  have hs : UnpackedFloat.Sign.ofBitVec
      (unpackSign (packComponents spec .positive exponent mantissa)) = .positive := by
    rw [UnpackedFloat.unpackSign_packComponents, UnpackedFloat.Sign.ofBitVec_toBitVec]
  simp only [unpack, UnpackedFloat.unpackExponent_packComponents,
    UnpackedFloat.unpackMantissa_packComponents, hs]
  split
  · next he =>
    rw [if_pos (h he)]
    rfl
  · split
    · split <;> rfl
    · rfl

theorem ne_neg_one {w : Nat} {v : BitVec w} (h : v.toNat + 1 < 2 ^ w) : v ≠ -1#w := by
  rintro rfl
  rw [BitVec.neg_one_eq_allOnes, BitVec.toNat_allOnes] at h
  omega

theorem isUnsigned_pack (h : IsUnsigned a) (spec : Format) :
    IsUnsigned (unpack spec (pack spec a)) := by
  have hzero : BitVec.ofNat spec.exponentBits 0 ≠ -1#_ := by
    refine ne_neg_one ?_
    rw [BitVec.toNat_zero, Nat.zero_add]
    exact Nat.one_lt_two_pow spec.he.ne'
  cases a with
  | notANumber => exact h.elim
  | zero s =>
    cases h
    exact isUnsigned_components fun _ => rfl
  | infinity s =>
    cases h
    exact isUnsigned_components fun _ => rfl
  | finite s m e hm =>
    cases h
    simp only [pack]
    split
    · exact isUnsigned_components fun _ => rfl
    · next hsmall =>
      split
      · refine isUnsigned_components fun he => absurd he (ne_neg_one ?_)
        rw [BitVec.toNat_ofNat]
        exact Nat.lt_of_le_of_lt (Nat.succ_le_succ (Nat.mod_le _ _)) (Nat.not_le.1 hsmall)
      · exact isUnsigned_components fun he => absurd he hzero

theorem isUnsigned_round (spec : Format) (m : Nat) (e : Int) (accuracy : UnpackedFloat.Accuracy) :
    IsUnsigned (UnpackedFloat.roundWithAccuracy spec .positive m e accuracy) := by
  simp only [UnpackedFloat.roundWithAccuracy]
  split <;> rfl

theorem isUnsigned_mul (ha : IsUnsigned a) (hb : IsPositive b = true) (spec : Format) :
    IsUnsigned (UnpackedFloat.mul spec a b) := by
  rcases b with _ | _ | _ | ⟨_ | _, n, e, hn⟩ <;> cases hb
  cases a <;> cases ha
  · rfl
  · rfl
  · exact isUnsigned_round ..

theorem isUnsigned_div (ha : IsUnsigned a) (hb : IsPositive b = true) (spec : Format) :
    IsUnsigned (UnpackedFloat.div spec a b) := by
  rcases b with _ | _ | _ | ⟨_ | _, n, e, hn⟩ <;> cases hb
  cases a <;> cases ha
  · rfl
  · rfl
  · exact isUnsigned_round ..

theorem isUnsigned_ofScientific (spec : Format) (m : Nat) (e : Int) :
    IsUnsigned (UnpackedFloat.ofScientific spec m e) := by
  unfold UnpackedFloat.ofScientific
  split_ifs
  · rfl
  · rfl
  · rfl
  · exact isUnsigned_round ..
  · exact isUnsigned_round ..

theorem isUnsigned_ofNat (spec : Format) (n : Nat) : IsUnsigned (UnpackedFloat.ofNat spec n) := by
  unfold UnpackedFloat.ofNat UnpackedFloat.ofInt UnpackedFloat.normalize
  split
  · next h =>
    have hneg : (n : Int) < 0 := compare_lt_iff_lt.1 h
    omega
  · rfl
  · exact isUnsigned_round ..

theorem isPositive_powerOfTen : ∀ i : Fin 23,
    IsPositive (Float.exactlyRepresentablePowersOfTen[i]).toModel.unpack = true := by
  decide +kernel

theorem unsigned_ofScientific (m : Nat) (s : Bool) (e : Nat) :
    Unsigned (Float.ofScientific m s e) := by
  unfold Float.ofScientific
  split
  · next h =>
    have hpower := isPositive_powerOfTen ⟨e, by omega⟩
    have hm : IsUnsigned (m.toUInt64.toFloat).toModel.unpack :=
      isUnsigned_pack (isUnsigned_ofNat _ _) _
    cases s
    · exact isUnsigned_pack (isUnsigned_mul hm hpower _) _
    · exact isUnsigned_pack (isUnsigned_div hm hpower _) _
  · exact isUnsigned_pack (isUnsigned_ofScientific ..) _

theorem unsigned_read? {cs : List Char} (h : read? cs = some x) : Unsigned x := by
  unfold read? at h
  split at h
  · cases h
    exact unsigned_ofScientific ..
  · cases h

end

end Reckoner.Number
