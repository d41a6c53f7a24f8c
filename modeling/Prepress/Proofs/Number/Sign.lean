/-
# Doubles without a minus sign

Rounding keeps a sign, and a number with a plus sign that is divided by another one has a plus sign.
So a decimal fraction, and what is left of it by a division, is no negative double, and it is a
number or infinite:

* `Double.zero_le_value` : a double with a plus sign is at least zero;
* `Double.hasPlus_decimal`, `Double.hasPlus_div` : decimal fractions and quotients have a plus sign.
-/
import Mathlib.Algebra.Order.Field.Rat
import Prepress.Proofs.Number.Double

namespace Prepress

/-! ## Rational numbers -/

theorem Value.scaled_nonneg (mantissa : Nat) (exponent : Int) :
    0 ≤ Value.scaled mantissa exponent := by
  unfold Value.scaled
  split
  · rw [← Int.natCast_mul]
    exact Rat.intCast_nonneg.2 (Int.natCast_nonneg _)
  · exact Rat.mkRat_nonneg (Int.natCast_nonneg _) _

namespace Double

open Float.Model Float.Model.UnpackedFloat

/-! ## Signs -/

/-- Whether a number has a plus sign. -/
def HasPlusSign : UnpackedFloat → Prop
  | .infinity s => s = .positive
  | .zero s => s = .positive
  | .finite s _ _ _ => s = .positive
  | .notANumber => False

/-- Whether a number has a plus sign and is neither zero nor infinite. -/
def isFinitePlus : UnpackedFloat → Bool
  | .finite .positive _ _ _ => true
  | _ => false

theorem hasPlusSign_roundWithAccuracy (m : Nat) (e : Int) (acc : Accuracy) :
    HasPlusSign (roundWithAccuracy .binary64 .positive m e acc) := by
  have hpick : ∀ (m : Nat) (e : Int),
      HasPlusSign (if h : m = 0 then .zero .positive else
        .finite .positive m e (Nat.pos_of_ne_zero h)) := by
    intro m e
    by_cases hm : m = 0
    · rw [dif_pos hm]
      rfl
    · rw [dif_neg hm]
      rfl
  unfold roundWithAccuracy
  exact hpick _ _

theorem hasPlusSign_div {u v : UnpackedFloat} (hu : HasPlusSign u) (hv : isFinitePlus v = true) :
    HasPlusSign (UnpackedFloat.div .binary64 u v) := by
  obtain ⟨m, e, hm, rfl⟩ : ∃ m e hm, v = .finite .positive m e hm := by
    match v, hv with
    | .finite .positive m e hm, _ => exact ⟨m, e, hm, rfl⟩
  cases u with
  | notANumber => exact hu.elim
  | infinity s =>
      rw [show s = .positive from hu]
      rfl
  | zero s =>
      rw [show s = .positive from hu]
      rfl
  | finite s m' e' hm' =>
      rw [show s = .positive from hu]
      exact hasPlusSign_roundWithAccuracy _ _ _

/-! ## Bits -/

theorem unpackSign_packComponents {spec : Float.Model.Format} (s : Sign)
    (e : BitVec spec.exponentBits) (m : BitVec spec.mantissaBitsWithoutImplicit) :
    unpackSign (packComponents spec s e m) = s.toBitVec := by
  apply BitVec.eq_of_getLsbD_eq
  intro i hi
  obtain rfl : i = 0 := by omega
  show (BitVec.cast _ (BitVec.extractLsb _ _ (packComponents spec s e m))).getLsbD 0 = _
  simp [packComponents, BitVec.getLsbD_append, BitVec.getElem_append]

/-- A word is that of a number with a plus sign when its first bit is not set, and its bits of
exponent are not all set unless it is infinite. -/
theorem hasPlusSign_unpack_iff {b : BitVec 64} :
    HasPlusSign (UnpackedFloat.unpack .binary64 b) ↔
      @unpackSign .binary64 b = 0#1 ∧
        (@unpackExponent .binary64 b = -1#11 → @unpackMantissa .binary64 b = 0#52) := by
  have hsign : Sign.ofBitVec (@unpackSign .binary64 b) = .positive ↔
      @unpackSign .binary64 b = 0#1 := by
    unfold Sign.ofBitVec
    split <;> simp [*]
  show HasPlusSign (if @unpackExponent .binary64 b = -1#11 then
    if @unpackMantissa .binary64 b = 0#52 then _ else _ else
      if @unpackExponent .binary64 b = 0#11 then
        if h : @unpackMantissa .binary64 b = 0#52 then _ else _ else _) ↔ _
  rw [← hsign]
  by_cases hones : @unpackExponent .binary64 b = -1#11
  · rw [if_pos hones]
    by_cases hm : @unpackMantissa .binary64 b = 0#52
    · rw [if_pos hm]
      exact ⟨fun h => ⟨h, fun _ => hm⟩, fun h => h.1⟩
    · rw [if_neg hm]
      exact ⟨fun h => h.elim, fun h => hm (h.2 hones)⟩
  · rw [if_neg hones]
    have hfinite : (@unpackExponent .binary64 b = -1#11 → @unpackMantissa .binary64 b = 0#52) :=
      fun h => absurd h hones
    by_cases hz : @unpackExponent .binary64 b = 0#11
    · rw [if_pos hz]
      by_cases hm : @unpackMantissa .binary64 b = 0#52
      · rw [dif_pos hm]
        exact ⟨fun h => ⟨h, hfinite⟩, fun h => h.1⟩
      · rw [dif_neg hm]
        exact ⟨fun h => ⟨h, hfinite⟩, fun h => h.1⟩
    · rw [if_neg hz]
      exact ⟨fun h => ⟨h, hfinite⟩, fun h => h.1⟩

/-- Writing a number as a double keeps its plus sign. -/
theorem hasPlusSign_unpack_pack {u : UnpackedFloat} (hu : HasPlusSign u) :
    HasPlusSign (UnpackedFloat.unpack .binary64 (UnpackedFloat.pack .binary64 u)) := by
  have hcomponents : ∀ (e : BitVec 11) (m : BitVec 52), (e = -1#11 → m = 0#52) →
      HasPlusSign (UnpackedFloat.unpack .binary64 (packComponents .binary64 .positive e m)) := by
    intro e m h
    rw [hasPlusSign_unpack_iff]
    refine ⟨unpackSign_packComponents _ _ _, fun hones => ?_⟩
    have he : e = -1#11 := unpackExponent_packComponents.symm.trans hones
    exact unpackMantissa_packComponents.trans (h he)
  cases u with
  | notANumber => exact hu.elim
  | infinity s =>
      rw [show s = .positive from hu]
      exact hcomponents (-1#11) 0#52 fun _ => rfl
  | zero s =>
      rw [show s = .positive from hu]
      exact hcomponents 0#11 0#52 fun _ => rfl
  | finite s m e hm =>
      rw [show s = .positive from hu]
      let biased := (e + 1023 + 52).toNat
      show HasPlusSign (UnpackedFloat.unpack .binary64 (if 2 ^ 11 ≤ biased + 1 then
        packComponents .binary64 .positive (-1#11) 0#52 else
        if m.log2 + 1 = 53 then packComponents .binary64 .positive (BitVec.ofNat 11 biased) _
          else packComponents .binary64 .positive 0#11 _))
      by_cases hlarge : 2 ^ 11 ≤ biased + 1
      · rw [if_pos hlarge]
        exact hcomponents (-1#11) 0#52 fun _ => rfl
      · rw [if_neg hlarge]
        by_cases hn : m.log2 + 1 = 53
        · rw [if_pos hn]
          refine hcomponents _ _ fun hones => ?_
          -- a smaller exponent does not set all its bits
          have hones := congrArg BitVec.toNat hones
          rw [BitVec.toNat_ofNat, Nat.mod_eq_of_lt (by omega)] at hones
          have hall : (-1#11 : BitVec 11).toNat = 2047 := by decide
          omega
        · rw [if_neg hn]
          refine hcomponents _ _ fun hones => ?_
          exact absurd hones (by decide)

/-! ## Doubles -/

/-- Whether a double has a plus sign. -/
def HasPlus (x : Float) : Prop := HasPlusSign x.toModel.unpack

variable {x y : Float}

theorem hasPlus_ofModel_pack {u : UnpackedFloat} (hu : HasPlusSign u) :
    HasPlus (.ofModel (.pack u)) :=
  hasPlusSign_unpack_pack hu

/-- A double divided by another one, both with a plus sign. -/
theorem hasPlus_div (hx : HasPlus x) (hy : isFinitePlus y.toModel.unpack = true) :
    HasPlus (x / y) :=
  hasPlus_ofModel_pack (hasPlusSign_div hx hy)

theorem hasPlus_toFloat (n : UInt64) : HasPlus n.toFloat := by
  apply hasPlus_ofModel_pack
  show HasPlusSign (UnpackedFloat.normalize .binary64 n.toNat 0 .positive)
  unfold UnpackedFloat.normalize
  by_cases hz : n.toNat = 0
  · rw [hz]
    rfl
  · rw [Int.compare_eq_gt.2 (by omega)]
    exact hasPlusSign_roundWithAccuracy _ _ _

theorem isFinitePlus_powersOfTen : ∀ e : Fin 23,
    isFinitePlus (Float.exactlyRepresentablePowersOfTen[e]).toModel.unpack = true := by
  decide +kernel

theorem hasPlusSign_ofScientific (n places : Nat) :
    HasPlusSign (UnpackedFloat.ofScientific .binary64 n (Int.negOfNat places)) := by
  unfold UnpackedFloat.ofScientific
  by_cases hz : n = 0
  · rw [dif_pos hz]
    rfl
  rw [dif_neg hz]
  by_cases hlarge : Int.negOfNat places > 2 ^ Format.binary64.exponentBits
  · rw [if_pos hlarge]
    rfl
  rw [if_neg hlarge]
  by_cases hsmall : Int.negOfNat places < -(2 ^ Format.binary64.exponentBits + n.log2)
  · rw [if_pos hsmall]
    rfl
  rw [if_neg hsmall]
  by_cases hwhole : 0 ≤ Int.negOfNat places
  · rw [if_pos hwhole]
    exact hasPlusSign_roundWithAccuracy _ _ _
  · rw [if_neg hwhole]
    exact hasPlusSign_roundWithAccuracy _ _ _

/-- A decimal fraction that is not negative has a plus sign. -/
theorem hasPlus_decimal (n places : Nat) : HasPlus (Measure.decimal (n : Int) places) := by
  show HasPlus (Float.ofScientific n true places)
  unfold Float.ofScientific
  by_cases h : n < 2 ^ 53 ∧ places ≤ 22
  · rw [dif_pos h, if_pos rfl]
    exact hasPlus_div (hasPlus_toFloat _) (isFinitePlus_powersOfTen ⟨places, by omega⟩)
  · rw [dif_neg h, if_pos rfl]
    exact hasPlus_ofModel_pack (hasPlusSign_ofScientific n places)

/-- A double with a plus sign is at least zero. -/
theorem zero_le_value (h : HasPlus x) : (Value.exact 0).le (Measure.value x) = true := by
  obtain ⟨hsign, hones⟩ := hasPlusSign_unpack_iff.1 h
  let bits := x.toBits.toNat
  have hlt : bits < 2 ^ 64 := x.toBits.toNat_lt
  have hpositive : ¬ Nat.pow 2 63 ≤ bits := by
    intro hle
    have hbit := congrArg BitVec.toNat hsign
    have hshift : (@unpackSign .binary64 x.toModel.toBits.toBitVec).toNat
        = bits / 2 ^ 63 % 2 := by
      show (BitVec.cast _ (BitVec.extractLsb _ _ x.toModel.toBits.toBitVec)).toNat = _
      rw [BitVec.toNat_cast, BitVec.extractLsb_toNat, Nat.shiftRight_eq_div_pow]
      rfl
    rw [hshift] at hbit
    have hle : 2 ^ 63 ≤ bits := hle
    have hz : (0#1).toNat = 0 := rfl
    omega
  have hfraction : (@unpackMantissa .binary64 x.toModel.toBits.toBitVec).toNat
      = bits % Nat.pow 2 52 := by
    unfold unpackMantissa
    rw [BitVec.toNat_cast, BitVec.extractLsb_toNat]
    rfl
  show (Value.exact 0).le (Value.ofBits bits) = true
  unfold Value.ofBits
  dsimp only
  rw [decide_eq_false hpositive]
  by_cases hfull : bits / Nat.pow 2 52 % 2048 = 2047
  · rw [if_pos hfull]
    have hzero : bits % Nat.pow 2 52 = 0 := by
      rw [← hfraction, hones (BitVec.eq_of_toNat_eq (by rw [toNat_unpackExponent, hfull]; decide))]
      rfl
    rw [if_pos hzero]
    rfl
  · rw [if_neg hfull, if_neg (by simp)]
    show (!decide (Value.scaled _ _ < (0 : Rat))) = true
    rw [Bool.not_eq_true', decide_eq_false_iff_not, not_lt]
    exact Value.scaled_nonneg _ _

end Double

end Prepress
