/-
# Doubles of bounded size

The operations on doubles round their results, and a result that is too large is infinite.  Rounding
makes a number at most twice as large, so what is computed from numbers of bounded size by a few
operations is a number again.

* `Double.exists_value` : a double of bounded size has a rational value;
* `Instant.exists_value_daysSince` : the days from one moment of the calendar to another are a
  number.
-/
import Mathlib.Algebra.Order.Group.Nat
import Prepress.Calendar.Span

namespace Prepress

namespace Double

open Float.Model Float.Model.UnpackedFloat

/-! ## Binary places -/

theorem log2_lt_of_lt {n k : Nat} (hk : 0 < k) (h : n < 2 ^ k) : n.log2 < k := by
  by_cases hz : n = 0
  · rw [hz, Nat.log2_zero]
    exact hk
  · exact (Nat.log2_lt hz).2 h

/-- Leaving out the last places of a mantissa and rounding leaves at most one place more. -/
theorem log2_rounded_le {m k r : Nat} (hr : r ≤ m / 2 ^ k + 1) : r.log2 ≤ m.log2 + 1 - k := by
  have hdiv : m / 2 ^ k < 2 ^ (m.log2 + 1 - k) := by
    apply Nat.div_lt_of_lt_mul
    rw [← Nat.pow_add]
    apply lt_of_lt_of_le Nat.lt_log2_self
    exact Nat.pow_le_pow_right (by decide) (by omega)
  have hone : 0 < 2 ^ (m.log2 + 1 - k) := Nat.two_pow_pos _
  apply Nat.le_of_lt_succ
  apply log2_lt_of_lt (Nat.succ_pos _)
  rw [Nat.pow_succ]
  omega

theorem log2_div_add_le {a b : Nat} (hz : a / b ≠ 0) : (a / b).log2 + b.log2 ≤ a.log2 := by
  have ha : a ≠ 0 := by
    intro h
    rw [h, Nat.zero_div] at hz
    exact hz rfl
  have hb : b ≠ 0 := by
    intro h
    rw [h, Nat.div_zero] at hz
    exact hz rfl
  rw [Nat.le_log2 ha, Nat.pow_add]
  calc 2 ^ (a / b).log2 * 2 ^ b.log2 ≤ a / b * b :=
        Nat.mul_le_mul (Nat.log2_self_le hz) (Nat.log2_self_le hb)
    _ ≤ a := Nat.div_mul_le_self a b

theorem log2_shiftLeft {m : Nat} (hm : m ≠ 0) (k : Nat) : (m <<< k).log2 = m.log2 + k := by
  have hpow : 0 < 2 ^ k := Nat.two_pow_pos k
  have hshift : m <<< k ≠ 0 := by
    rw [Nat.shiftLeft_eq]
    exact Nat.mul_ne_zero hm (Nat.pos_iff_ne_zero.1 hpow)
  rw [Nat.log2_eq_iff hshift, Nat.shiftLeft_eq, Nat.pow_add, Nat.add_right_comm, Nat.pow_add]
  constructor
  · exact Nat.mul_le_mul_right _ (Nat.log2_self_le hm)
  · exact Nat.mul_lt_mul_of_pos_right Nat.lt_log2_self hpow

/-! ## Rounding -/

/-- Whether a number is finite and less than `2 ^ bound` in size. -/
def Below (bound : Int) : UnpackedFloat → Prop
  | .zero _ => True
  | .finite _ m e _ => totalExponent m e ≤ bound
  | .infinity _ => False
  | .notANumber => False

theorem mantissa_shiftRight (em : ExtendedMantissa) (k : Nat) :
    (em >>> k).mantissa = em.mantissa / 2 ^ k := by
  induction k with
  | zero => exact (Nat.div_one em.mantissa).symm
  | succ k ih =>
      show (em >>> k).mantissa / 2 = _
      rw [ih, Nat.div_div_eq_div_mul, Nat.pow_succ]

theorem mantissa_ofMantissaAndAccuracy (m : Nat) (acc : Accuracy) :
    (ExtendedMantissa.ofMantissaAndAccuracy m acc).mantissa = m := by
  cases acc with
  | exact => rfl
  | inexact o => cases o <;> rfl

theorem roundedMantissa_le (em : ExtendedMantissa) : em.roundedMantissa ≤ em.mantissa + 1 := by
  obtain ⟨m, roundBit, stickyBit⟩ := em
  unfold ExtendedMantissa.roundedMantissa
  cases roundBit <;> cases stickyBit
  · exact Nat.le_succ m
  · exact Nat.le_succ m
  · show m + m % 2 ≤ m + 1
    omega
  · exact le_refl (m + 1)

/-- Rounding makes a number at most twice as large. -/
theorem below_roundWithAccuracy (s : Sign) {m : Nat} {e bound : Int} (acc : Accuracy)
    (h : totalExponent m e ≤ bound) (hb : -1074 ≤ bound) :
    Below (bound + 1) (roundWithAccuracy .binary64 s m e acc) := by
  let k := (Format.binary64.targetExponent (totalExponent m e) - e).toNat
  let r := (ExtendedMantissa.ofMantissaAndAccuracy m acc >>> k).roundedMantissa
  let k' := (Format.binary64.targetExponent (totalExponent r (e + k)) - (e + k)).toNat
  have hr : r ≤ m / 2 ^ k + 1 := by
    rw [← mantissa_ofMantissaAndAccuracy m acc, ← mantissa_shiftRight]
    exact roundedMantissa_le _
  have hfirst : totalExponent r (e + k) ≤ bound + 1 := by
    have hlog := log2_rounded_le hr
    have hk : k = (max (totalExponent m e - 53) (-1074) - e).toNat := rfl
    unfold totalExponent at *
    omega
  -- a second shift follows, since rounding may have carried into a further place
  have hlast : (ExtendedMantissa.ofMantissaAndAccuracy r .exact >>> k').mantissa = r / 2 ^ k' :=
    mantissa_shiftRight _ _
  show Below (bound + 1)
    (if hz : (ExtendedMantissa.ofMantissaAndAccuracy r .exact >>> k').mantissa = 0 then .zero s
      else .finite s _ (e + k + k') _)
  by_cases hz : (ExtendedMantissa.ofMantissaAndAccuracy r .exact >>> k').mantissa = 0
  · rw [dif_pos hz]
    trivial
  · rw [dif_neg hz]
    rw [hlast] at hz
    show totalExponent (ExtendedMantissa.ofMantissaAndAccuracy r .exact >>> k').mantissa
      (e + k + k') ≤ bound + 1
    rw [hlast]
    have hlog := log2_div_add_le hz
    rw [Nat.log2_two_pow] at hlog
    unfold totalExponent at *
    omega

/-- Making the exponent smaller does not change the size of a number. -/
theorem below_round (s : Sign) {m : Nat} {e bound : Int} (hm : m ≠ 0)
    (h : totalExponent m e ≤ bound) (hb : -1074 ≤ bound) :
    Below (bound + 1) (UnpackedFloat.round .binary64 s m e) := by
  let k := (e - Format.binary64.targetExponent (totalExponent m e)).toNat
  have hlog : (m <<< k).log2 = m.log2 + k := log2_shiftLeft hm k
  show Below (bound + 1) (roundWithAccuracy .binary64 s (m <<< k) (e - k) .exact)
  apply below_roundWithAccuracy s .exact _ hb
  unfold totalExponent at *
  omega

/-! ## Sign and division -/

theorem below_neg {bound : Int} {u : UnpackedFloat} (h : Below bound u) : Below bound u.neg := by
  cases u with
  | infinity s => exact h
  | notANumber => exact h
  | zero s => exact h
  | finite s m e hm => exact h

/-- Whether a number is finite and not less than one half in size. -/
def isLarge : UnpackedFloat → Bool
  | .finite _ m e _ => decide (0 ≤ totalExponent m e)
  | _ => false

/-- A number divided by one that is not less than one half is at most four times as large. -/
theorem below_div {bound : Int} {u v : UnpackedFloat} (hu : Below bound u)
    (hv : isLarge v = true) (hb : -1073 ≤ bound) :
    Below (bound + 2) (UnpackedFloat.div .binary64 u v) := by
  cases v with
  | infinity s => exact (Bool.false_ne_true hv).elim
  | notANumber => exact (Bool.false_ne_true hv).elim
  | zero s => exact (Bool.false_ne_true hv).elim
  | finite s m e hm =>
      have hv : 0 ≤ totalExponent m e := of_decide_eq_true hv
      cases u with
      | infinity s' => exact hu.elim
      | notANumber => exact hu.elim
      | zero s' => trivial
      | finite s' m' e' hm' =>
          have hu : totalExponent m' e' ≤ bound := hu
          let t := min (e' - e)
            (Format.binary64.targetExponent (totalExponent m' e' - totalExponent m e))
          let k := (e' - e - t).toNat
          have ht : t = min (e' - e) (max (totalExponent m' e' - totalExponent m e - 53) (-1074)) :=
            rfl
          -- `k` more places are taken from the dividend, so that the quotient fills a mantissa
          have hquotient : totalExponent ((m' <<< k) / m) t ≤ bound + 1 := by
            by_cases hz : (m' <<< k) / m = 0
            · rw [hz]
              unfold totalExponent at *
              rw [Nat.log2_zero]
              omega
            · have hlog := log2_div_add_le hz
              rw [log2_shiftLeft (Nat.pos_iff_ne_zero.1 hm')] at hlog
              unfold totalExponent at *
              omega
          have htwice : bound + 2 = bound + 1 + 1 := by omega
          rw [htwice]
          exact below_roundWithAccuracy _ _ hquotient (by omega)

/-! ## Doubles -/

theorem Below.mono {a b : Int} (hab : a ≤ b) {u : UnpackedFloat} (h : Below a u) : Below b u := by
  cases u with
  | infinity s => exact h.elim
  | notANumber => exact h.elim
  | zero s => trivial
  | finite s m e hm => exact Int.le_trans (show totalExponent m e ≤ a from h) hab

/-- The bits of the exponent bound the size of a number. -/
theorem below_unpack {b : BitVec 64} (h : @unpackExponent .binary64 b ≠ -1#11) :
    Below ((@unpackExponent .binary64 b).toNat - 1022) (UnpackedFloat.unpack .binary64 b) := by
  have hbias : (Format.binary64.exponentBias : Int) = 1023 := rfl
  show Below _ (if @unpackExponent .binary64 b = -1#11 then _ else
    if @unpackExponent .binary64 b = 0#11 then _ else _)
  rw [if_neg h]
  by_cases hz : @unpackExponent .binary64 b = 0#11
  · rw [if_pos hz]
    by_cases hm : @unpackMantissa .binary64 b = 0#52
    · rw [dif_pos hm]
      trivial
    · -- a subnormal number has the least exponent and no leading bit
      rw [dif_neg hm]
      have hlog : (@unpackMantissa .binary64 b).toNat.log2 < 52 :=
        log2_lt_of_lt (by decide) (BitVec.isLt _)
      show (_ : Int) + 1 + (_ - (Format.binary64.exponentBias + (52 : Nat)) + 1) ≤ _
      omega
  · rw [if_neg hz]
    have hlog : (1#1 ++ @unpackMantissa .binary64 b).toNat.log2 < 53 :=
      log2_lt_of_lt (by decide) (BitVec.isLt _)
    show (_ : Int) + 1 + (_ - (Format.binary64.exponentBias + (52 : Nat))) ≤ _
    omega

/-- A number whose bits of exponent are all set is not finite. -/
theorem not_below_unpack {b : BitVec 64} (h : @unpackExponent .binary64 b = -1#11) (bound : Int) :
    ¬ Below bound (UnpackedFloat.unpack .binary64 b) := by
  show ¬ Below bound (if @unpackExponent .binary64 b = -1#11 then
    if @unpackMantissa .binary64 b = 0#52 then _ else _ else _)
  rw [if_pos h]
  by_cases hm : @unpackMantissa .binary64 b = 0#52
  · rw [if_pos hm]
    exact fun h => h
  · rw [if_neg hm]
    exact fun h => h

/-- A number of bounded size is not changed much by writing it as a double. -/
theorem below_unpack_pack {bound : Int} {u : UnpackedFloat} (hu : Below bound u)
    (hl : -1022 ≤ bound) (hr : bound ≤ 972) :
    Below bound (UnpackedFloat.unpack .binary64 (UnpackedFloat.pack .binary64 u)) := by
  have hcomponents : ∀ (s : Sign) (e : BitVec 11) (m : BitVec 52), e ≠ -1#11 →
      (e.toNat : Int) - 1022 ≤ bound →
        Below bound (UnpackedFloat.unpack .binary64 (packComponents .binary64 s e m)) := by
    intro s e m he hb
    have hfield : @unpackExponent .binary64 (packComponents .binary64 s e m) = e :=
      unpackExponent_packComponents
    rw [← hfield] at he hb
    exact (below_unpack he).mono hb
  cases u with
  | infinity s => exact hu.elim
  | notANumber => exact hu.elim
  | zero s => exact hcomponents s 0#11 0#52 (by decide) hl
  | finite s m e hm =>
      have hu : m.log2 + 1 + e ≤ bound := hu
      let biased := (e + 1023 + 52).toNat
      have hbiased : biased = (e + 1023 + 52).toNat := rfl
      show Below bound (UnpackedFloat.unpack .binary64 (if 2 ^ 11 ≤ biased + 1 then _ else
        if m.log2 + 1 = 53 then packComponents .binary64 s (BitVec.ofNat 11 biased) _
          else packComponents .binary64 s 0#11 _))
      -- the bound keeps the exponent below the one of infinity
      rw [if_neg (by omega)]
      by_cases hn : m.log2 + 1 = 53
      · rw [if_pos hn]
        have htoNat : (BitVec.ofNat 11 biased).toNat = biased := by
          rw [BitVec.toNat_ofNat]
          exact Nat.mod_eq_of_lt (by omega)
        have hne : BitVec.ofNat 11 biased ≠ -1#11 := by
          intro h
          have h := congrArg BitVec.toNat h
          rw [htoNat] at h
          have hones : (-1#11 : BitVec 11).toNat = 2047 := by decide
          omega
        apply hcomponents s _ _ hne
        rw [htoNat]
        omega
      · rw [if_neg hn]
        exact hcomponents s 0#11 _ (by decide) hl

/-- Whether a double is finite and less than `2 ^ bound` in size. -/
def IsBelow (bound : Int) (x : Float) : Prop := Below bound x.toModel.unpack

variable {bound : Int} {x y : Float}

theorem isBelow_ofModel_pack {u : UnpackedFloat} (hu : Below bound u) (hl : -1022 ≤ bound)
    (hr : bound ≤ 972) : IsBelow bound (.ofModel (.pack u)) :=
  below_unpack_pack hu hl hr

theorem isBelow_neg (h : IsBelow bound x) (hl : -1022 ≤ bound) (hr : bound ≤ 972) :
    IsBelow bound (-x) :=
  isBelow_ofModel_pack (below_neg h) hl hr

theorem isBelow_div (h : IsBelow bound x) (hy : isLarge y.toModel.unpack = true)
    (hl : -1022 ≤ bound) (hr : bound ≤ 970) : IsBelow (bound + 2) (x / y) := by
  apply isBelow_ofModel_pack _ (by omega) (by omega)
  exact below_div h hy (by omega)

theorem below_ofNat {n k : Nat} (hk : 0 < k) (h : n < 2 ^ k) :
    Below (k + 1) (UnpackedFloat.ofNat .binary64 n) := by
  unfold UnpackedFloat.ofNat UnpackedFloat.ofInt UnpackedFloat.normalize
  by_cases hz : n = 0
  · rw [hz]
    trivial
  · rw [Int.compare_eq_gt.2 (by omega)]
    apply below_round .positive hz _ (by omega)
    have hlog := log2_lt_of_lt hk h
    unfold totalExponent
    omega

theorem isBelow_toFloat (n : UInt64) : IsBelow 65 n.toFloat :=
  isBelow_ofModel_pack (below_ofNat (by decide) n.toNat_lt) (by decide) (by decide)

/-- The bits of the exponent are read off the number that all bits make. -/
theorem toNat_unpackExponent (x : Float) :
    (@unpackExponent .binary64 x.toModel.toBits.toBitVec).toNat
      = x.toBits.toNat / Nat.pow 2 52 % 2048 := by
  unfold unpackExponent
  rw [BitVec.toNat_cast, BitVec.extractLsb_toNat, Nat.shiftRight_eq_div_pow]
  rfl

/-- A double of bounded size has a rational value. -/
theorem exists_value (h : IsBelow bound x) : ∃ q, Measure.value x = .exact q := by
  show ∃ q, Value.ofBits x.toBits.toNat = .exact q
  unfold Value.ofBits
  dsimp only
  by_cases hones : x.toBits.toNat / Nat.pow 2 52 % 2048 = 2047
  · exfalso
    rw [← toNat_unpackExponent] at hones
    exact not_below_unpack (BitVec.eq_of_toNat_eq hones) bound h
  · rw [if_neg hones]
    exact ⟨_, rfl⟩

/-! ## Decimal fractions -/

/-- The powers of ten that are doubles. -/
theorem isLarge_powersOfTen : ∀ e : Fin 23,
    isLarge (Float.exactlyRepresentablePowersOfTen[e]).toModel.unpack = true := by
  decide +kernel

theorem below_ofScientific {n places : Nat} (hn : n < 2 ^ 64) (hp : 0 < places) :
    Below 66 (UnpackedFloat.ofScientific .binary64 n (Int.negOfNat places)) := by
  have hneg : Int.negOfNat places < 0 := by
    rw [Int.negOfNat_eq, Int.ofNat_eq_natCast]
    omega
  have hlarge : ¬ Int.negOfNat places > 2 ^ 11 := by omega
  unfold UnpackedFloat.ofScientific
  by_cases hz : n = 0
  · rw [dif_pos hz]
    trivial
  rw [dif_neg hz, if_neg hlarge]
  by_cases hsmall : Int.negOfNat places < -((2 ^ 11 : Int) + n.log2)
  · rw [if_pos hsmall]
    trivial
  rw [if_neg hsmall, if_neg (by omega)]
  have hlog := log2_lt_of_lt (by decide) hn
  have hwhole : Below 64 (.finite .positive n 0 (Nat.pos_iff_ne_zero.2 hz)) := by
    show (n.log2 : Int) + 1 + 0 ≤ 64
    omega
  have hpower : isLarge (.finite .positive (10 ^ (-Int.negOfNat places).toNat) 0
      (Nat.pow_pos (by decide))) = true := by
    show decide (0 ≤ totalExponent (10 ^ (-Int.negOfNat places).toNat) 0) = true
    apply decide_eq_true
    unfold totalExponent
    omega
  exact below_div hwhole hpower (by decide)

theorem isBelow_ofScientific {n places : Nat} (hn : n < 2 ^ 64) (hp : 0 < places) :
    IsBelow 67 (Float.ofScientific n true places) := by
  unfold Float.ofScientific
  by_cases h : n < 2 ^ 53 ∧ places ≤ 22
  · -- both numbers are doubles, and one is divided by the other
    rw [dif_pos h, if_pos rfl]
    have hpower := isLarge_powersOfTen ⟨places, by omega⟩
    exact isBelow_div (isBelow_toFloat _) hpower (by decide) (by decide)
  · rw [dif_neg h, if_pos rfl]
    apply isBelow_ofModel_pack _ (by decide) (by decide)
    exact (below_ofScientific hn hp).mono (by decide)

theorem isBelow_decimal {n : Int} {places : Nat} (hn : n.natAbs < 2 ^ 64) (hp : 0 < places) :
    IsBelow 67 (Measure.decimal n places) := by
  cases n with
  | ofNat n => exact isBelow_ofScientific hn hp
  | negSucc n => exact isBelow_neg (isBelow_ofScientific hn hp) (by decide) (by decide)

end Double

namespace Instant

/-- The days from one moment of the calendar to another are a number. -/
theorem exists_value_daysSince (later earlier : Instant) :
    ∃ q, Measure.value (later.daysSince earlier : Float) = .exact q := by
  have hsince : (later.since earlier).natAbs < 2 ^ 64 := by
    have hbound : dayCount * dayMicros < 2 ^ 64 := by decide
    have hlater := later.micros_lt
    have hearlier := earlier.micros_lt
    unfold since
    omega
  have hday : Double.isLarge (Measure.ofInt 86400 : Float).toModel.unpack = true := by
    decide +kernel
  have hseconds : Double.IsBelow 67 (Measure.decimal (later.since earlier) 6) :=
    Double.isBelow_decimal hsince (by decide)
  exact Double.exists_value (Double.isBelow_div hseconds hday (by decide) (by decide))

end Instant

end Prepress
