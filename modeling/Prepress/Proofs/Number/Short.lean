/-
# Amounts with at most three places

An amount is written with three places, and zeros at its end are taken away, and then a bare point.
The zeros of the whole digits are behind the point and stay (`exists_shortened`).  So the numeral is
canonical (`IsCanonical`), and it denotes the thousandths that the amount is rounded to.

* `short_denotes` : a number is written as the canonical numeral of the nearest thousandth, and
  numbers are written in their order and alike just when they are rounded alike.
-/
import Mathlib.Algebra.Order.Field.Basic
import Mathlib.Data.List.Induction
import Mathlib.Tactic.FieldSimp
import Mathlib.Tactic.NormNum
import Prepress.Number.Amount
import Prepress.Proofs.Number.Rounding
import Prepress.Proofs.Text.Numeral

namespace Prepress.Amount

open Text

/-! ## Numerals -/

/-- The number that digits with a point among them, or with none, denote. -/
def magnitude (t : Text) : Rat :=
  let whole := t.takeWhile (· != '.')
  let fraction := (t.dropWhile (· != '.')).drop 1
  digitsToNat (whole ++ fraction) / 10 ^ fraction.length

/-- The number that a decimal numeral denotes. -/
def denoted : Text → Rat
  | '-' :: t => -magnitude t
  | t => magnitude t

/-- Digits before a point: at least one, and no zero before others. -/
def IsWhole (t : Text) : Prop :=
  t ≠ [] ∧ Within (·.isDigit = true) t ∧ (t.head? = some '0' → t = ['0'])

instance : DecidablePred IsWhole := fun _ => inferInstanceAs (Decidable (_ ∧ _))

/-- Digits after a point: at most three, and no zero as the last one. -/
def IsFraction (t : Text) : Prop :=
  t.length ≤ 3 ∧ Within (·.isDigit = true) t ∧ t.getLast? ≠ some '0'

instance : DecidablePred IsFraction := fun _ => inferInstanceAs (Decidable (_ ∧ _))

/-- Digits with a point before the fraction, if there is one. -/
def pointed (whole fraction : Text) : Text :=
  whole ++ if fraction = [] then [] else '.' :: fraction

/-- A text with a minus sign, or without. -/
def signed (negative : Bool) (t : Text) : Text := (if negative then ['-'] else []) ++ t

/-- A canonical numeral: perhaps a minus sign, whole digits without needless zeros, and perhaps a
point and at most three digits of which the last is not zero; and not a negative zero. -/
def IsCanonical (t : Text) : Prop :=
  ∃ negative whole fraction, IsWhole whole ∧ IsFraction fraction ∧
    t = signed negative (pointed whole fraction) ∧ t ≠ "-0".toList

/-- What whole digits and a fraction denote. -/
theorem magnitude_pointed {whole fraction : Text} (hwhole : Within (·.isDigit = true) whole) :
    magnitude (pointed whole fraction)
      = digitsToNat (whole ++ fraction) / 10 ^ fraction.length := by
  have hpoint : ∀ c ∈ whole, (c != '.') = true := by
    intro c hc
    rw [bne_iff_ne]
    rintro rfl
    exact absurd (hwhole '.' hc) (by decide)
  unfold magnitude pointed
  rw [List.takeWhile_append_of_pos hpoint, List.dropWhile_append_of_pos hpoint]
  cases fraction with
  | nil => simp
  | cons d fraction => simp

theorem denoted_signed {negative : Bool} {whole fraction : Text} (hwhole : IsWhole whole) :
    denoted (signed negative (pointed whole fraction)) = (if negative then -1 else 1)
      * (digitsToNat (whole ++ fraction) / 10 ^ fraction.length) := by
  have hmagnitude : magnitude (pointed whole fraction) = _ := magnitude_pointed hwhole.2.1
  cases negative with
  | true =>
      show -magnitude (pointed whole fraction) = _
      rw [hmagnitude, if_pos rfl, neg_one_mul]
  | false =>
      rw [if_neg Bool.false_ne_true, one_mul, ← hmagnitude]
      obtain ⟨c, t, rfl⟩ := List.exists_cons_of_ne_nil hwhole.1
      have hc : c ≠ '-' := by
        rintro rfl
        exact absurd (hwhole.2.1 '-' List.mem_cons_self) (by decide)
      show denoted (c :: (t ++ _)) = magnitude (c :: (t ++ _))
      unfold denoted
      split
      · next heq => exact absurd (List.cons.inj heq).1 hc
      · rfl

/-! ## What is taken from the end -/

theorem dropFinal_concat_self (c : Char) (t : Text) : dropFinal c (t ++ [c]) = dropFinal c t := by
  induction t with
  | nil => simp [dropFinal]
  | cons d t ih => rw [List.cons_append, dropFinal, dropFinal, ih]

theorem dropFinal_concat {c d : Char} (h : d ≠ c) (t : Text) :
    dropFinal c (t ++ [d]) = t ++ [d] := by
  induction t with
  | nil => simp [dropFinal, h]
  | cons e t ih =>
      rw [List.cons_append, dropFinal, ih]
      cases t <;> rfl

theorem dropFinal_eq_self {c : Char} {t : Text} (h : t.getLast? ≠ some c) : dropFinal c t = t := by
  induction t using List.reverseRecOn with
  | nil => rfl
  | append_singleton t d _ =>
      rw [List.getLast?_concat, ne_eq, Option.some.injEq] at h
      exact dropFinal_concat h t

/-- What is taken away is the run of the character at the end. -/
theorem dropFinal_append_replicate {c : Char} {t : Text} (h : t.getLast? ≠ some c) (k : Nat) :
    dropFinal c (t ++ List.replicate k c) = t := by
  induction k with
  | zero => rw [List.replicate_zero, List.append_nil, dropFinal_eq_self h]
  | succ k ih => rw [List.replicate_succ', ← List.append_assoc, dropFinal_concat_self, ih]

/-- A text ends in a run of a character, perhaps an empty one. -/
theorem exists_append_replicate (c : Char) (t : Text) :
    ∃ a k, t = a ++ List.replicate k c ∧ a.getLast? ≠ some c := by
  induction t using List.reverseRecOn with
  | nil => exact ⟨[], 0, rfl, by simp⟩
  | append_singleton t d ih =>
      by_cases h : d = c
      · obtain ⟨a, k, ht, ha⟩ := ih
        refine ⟨a, k + 1, ?_, ha⟩
        rw [h, ht, List.append_assoc, List.replicate_succ']
      · refine ⟨t ++ [d], 0, by rw [List.replicate_zero, List.append_nil], ?_⟩
        rw [List.getLast?_concat, ne_eq, Option.some.injEq]
        exact h

theorem getLast?_append_ne {c : Char} {a b : Text} (hb : b ≠ []) (h : b.getLast? ≠ some c) :
    (a ++ b).getLast? ≠ some c := by
  rwa [List.getLast?_append_of_ne_nil a hb]

theorem getLast?_ne_of_isDigit {t : Text} (h : Within (·.isDigit = true) t) {c : Char}
    (hc : c.isDigit = false) : t.getLast? ≠ some c := by
  intro hlast
  rw [h c (List.mem_of_getLast? hlast)] at hc
  exact Bool.true_eq_false_eq_False hc

/-- The zeros at the end of a fraction are taken away, and the point if nothing is left before
them; the whole digits stay as they are. -/
theorem dropFinal_dropFinal_point {a fraction : Text} (hpoint : a.getLast? ≠ some '.')
    (hdigits : Within (·.isDigit = true) fraction) (hlast : fraction.getLast? ≠ some '0')
    (k : Nat) :
    dropFinal '.' (dropFinal '0' (a ++ '.' :: (fraction ++ List.replicate k '0')))
      = pointed a fraction := by
  have hzeros : dropFinal '0' (a ++ '.' :: (fraction ++ List.replicate k '0'))
      = a ++ '.' :: fraction := by
    rw [← List.cons_append, ← List.append_assoc]
    apply dropFinal_append_replicate
    apply getLast?_append_ne (List.cons_ne_nil _ _)
    cases fraction with
    | nil => decide
    | cons d fraction => rwa [List.getLast?_cons_cons]
  rw [hzeros, pointed]
  cases fraction with
  | nil =>
      rw [if_pos rfl, List.append_nil]
      exact dropFinal_append_replicate hpoint 1
  | cons d fraction =>
      rw [if_neg (List.cons_ne_nil _ _)]
      apply dropFinal_eq_self
      apply getLast?_append_ne (List.cons_ne_nil _ _)
      rw [List.getLast?_cons_cons]
      exact getLast?_ne_of_isDigit hdigits (by decide)

/-! ## Three places -/

/-- Thousandths are written as whole digits, a point and three digits. -/
theorem exists_ofUnits (n : Nat) :
    ∃ whole fraction, ofUnits 3 n = whole ++ '.' :: fraction ∧ IsWhole whole ∧
      fraction.length = 3 ∧ Within (·.isDigit = true) fraction ∧
      digitsToNat (whole ++ fraction) = n := by
  let digits := zeroPadded 4 n
  have hlength : 4 ≤ digits.length := by
    show 4 ≤ (padLeft '0' 4 (ofNat n)).length
    rw [length_padLeft]
    exact Nat.le_max_left _ _
  have hdigits : Within (·.isDigit = true) digits := within_isDigit_zeroPadded 4 n
  refine ⟨digits.take (digits.length - 3), digits.drop (digits.length - 3), rfl, ⟨?_, ?_, ?_⟩,
    ?_, ?_, ?_⟩
  · apply List.ne_nil_of_length_pos
    rw [List.length_take]
    omega
  · exact hdigits.sublist (List.take_sublist _ _)
  · intro hhead
    rw [List.head?_take, if_neg (by omega)] at hhead
    rcases Nat.lt_or_ge (ofNat n).length 4 with hshort | hlong
    · -- the numeral is filled up with zeros, of which one stands before the point
      have hsucc : digits = '0' :: zeroPadded 3 n := zeroPadded_succ (by omega)
      have hthree : (zeroPadded 3 n).length = 3 := by
        rw [zeroPadded, length_padLeft]
        omega
      rw [hsucc, List.length_cons, hthree]
      rfl
    · have hsame : digits = ofNat n := zeroPadded_of_le hlong
      have hzero : n = 0 := by
        by_contra hn
        rw [hsame] at hhead
        exact head?_ofNat_ne hn hhead
      rw [hzero] at hlong
      exact absurd hlong (by decide)
  · rw [List.length_drop]
    omega
  · exact hdigits.sublist (List.drop_sublist _ _)
  · rw [List.take_append_drop]
    exact digitsToNat_zeroPadded 4 n

/-- Thousandths without zeros at their end, after a sign or without one. -/
theorem exists_shortened (negative : Bool) (n : Nat) :
    ∃ whole fraction, IsWhole whole ∧ IsFraction fraction ∧
      digitsToNat (whole ++ fraction) * 10 ^ (3 - fraction.length) = n ∧
      dropFinal '.' (dropFinal '0' (signed negative (ofUnits 3 n)))
        = signed negative (pointed whole fraction) := by
  obtain ⟨whole, fraction, hunits, hwhole, hlength, hdigits, hvalue⟩ := exists_ofUnits n
  obtain ⟨kept, k, rfl, hlast⟩ := exists_append_replicate '0' fraction
  have hkept : Within (·.isDigit = true) kept := (within_append.1 hdigits).1
  rw [List.length_append, List.length_replicate] at hlength
  refine ⟨whole, kept, hwhole, ⟨by omega, hkept, hlast⟩, ?_, ?_⟩
  · rw [← List.append_assoc, digitsToNat_append, digitsToNat_replicate_zero,
      List.length_replicate] at hvalue
    rw [show 3 - kept.length = k by omega, Nat.mul_comm]
    exact hvalue
  · have hpoint : (signed negative whole).getLast? ≠ some '.' :=
      getLast?_append_ne hwhole.1 (getLast?_ne_of_isDigit hwhole.2.1 (by decide))
    have h := dropFinal_dropFinal_point hpoint hkept hlast k
    rw [hunits]
    rw [signed, pointed, List.append_assoc, List.append_assoc] at h
    exact h

/-! ## Rational numbers -/

/-- The rounding is not above zero for a negative number, and not below it for another. -/
theorem sign_roundHalfEven (q : Rat) :
    (q < 0 → roundHalfEven q ≤ 0) ∧ (0 ≤ q → 0 ≤ roundHalfEven q) := by
  have hzero : IsNearest 0 0 := isNearest_roundHalfEven 0
  exact ⟨fun h => (isNearest_roundHalfEven q).mono hzero h.le,
    fun h => hzero.mono (isNearest_roundHalfEven q) h⟩

theorem fixed_eq_signed (q : Rat) :
    fixed 3 q = signed (decide (q < 0)) (ofUnits 3 (roundHalfEven (q * 1000)).natAbs) := by
  have hthousand : ((Nat.pow 10 3 : Nat) : Rat) = 1000 := by norm_num
  rw [fixed, signed, hthousand]
  by_cases h : q < 0 <;> simp [h]

/-- A number is written as its thousandths without zeros at their end, except that a zero has no
sign. -/
theorem exists_ofRat (q : Rat) :
    ∃ whole fraction, IsWhole whole ∧ IsFraction fraction ∧
      digitsToNat (whole ++ fraction) * 10 ^ (3 - fraction.length)
        = (roundHalfEven (q * 1000)).natAbs ∧
      ofRat q = if signed (decide (q < 0)) (pointed whole fraction) = "-0".toList then "0".toList
        else signed (decide (q < 0)) (pointed whole fraction) := by
  obtain ⟨whole, fraction, hwhole, hfraction, hvalue, hkept⟩ :=
    exists_shortened (decide (q < 0)) (roundHalfEven (q * 1000)).natAbs
  refine ⟨whole, fraction, hwhole, hfraction, hvalue, ?_⟩
  have hne : signed (decide (q < 0)) (pointed whole fraction) ≠ [] :=
    List.append_ne_nil_of_right_ne_nil _ (List.append_ne_nil_of_left_ne_nil hwhole.1 _)
  rw [ofRat, shortened, fixed_eq_signed, hkept]
  simp only [hne, false_or]
  rfl

theorem isCanonical_ofRat (q : Rat) : IsCanonical (ofRat q) := by
  obtain ⟨whole, fraction, hwhole, hfraction, -, hofRat⟩ := exists_ofRat q
  rw [hofRat]
  split
  · exact ⟨false, ['0'], [], by decide, by decide, by decide, by decide⟩
  · next hne => exact ⟨_, whole, fraction, hwhole, hfraction, rfl, hne⟩

/-- The numeral of a number denotes the thousandths that the number is rounded to. -/
theorem denoted_ofRat (q : Rat) : denoted (ofRat q) = roundHalfEven (q * 1000) / 1000 := by
  obtain ⟨hneg, hpos⟩ := sign_roundHalfEven (q * 1000)
  obtain ⟨whole, fraction, hwhole, hfraction, hvalue, hofRat⟩ := exists_ofRat q
  have hwritten : denoted (ofRat q)
      = denoted (signed (decide (q < 0)) (pointed whole fraction)) := by
    have hzero : denoted "0".toList = denoted "-0".toList := by decide +kernel
    rw [hofRat]
    split
    · next heq => rw [heq, hzero]
    · rfl
  have hdigits : (digitsToNat (whole ++ fraction) : Rat) / 10 ^ fraction.length
      = ((roundHalfEven (q * 1000)).natAbs : Rat) / 1000 := by
    have hplaces : (10 : Rat) ^ fraction.length * 10 ^ (3 - fraction.length) = 1000 := by
      rw [← pow_add, Nat.add_sub_cancel' hfraction.1]
      norm_num
    rw [← hvalue, ← hplaces]
    push_cast
    field_simp
  rw [hwritten, denoted_signed hwhole, hdigits, Nat.cast_natAbs]
  by_cases h : q < 0
  · have hle : ((roundHalfEven (q * 1000) : Int) : Rat) ≤ 0 := by
      exact_mod_cast hneg (by linarith)
    rw [if_pos (decide_eq_true h), Int.cast_abs, abs_of_nonpos hle]
    ring
  · have hle : (0 : Rat) ≤ (roundHalfEven (q * 1000) : Int) := by
      exact_mod_cast hpos (by linarith)
    rw [if_neg (by simpa using h), Int.cast_abs, abs_of_nonneg hle]
    ring

/-- Numbers that are rounded alike are written alike. -/
theorem ofRat_congr {q r : Rat} (h : roundHalfEven (q * 1000) = roundHalfEven (r * 1000)) :
    ofRat q = ofRat r := by
  have hsign : ∀ {q : Rat}, roundHalfEven (q * 1000) ≠ 0 →
      (q < 0 ↔ roundHalfEven (q * 1000) < 0) := by
    intro q hne
    obtain ⟨hneg, hpos⟩ := sign_roundHalfEven (q * 1000)
    constructor
    · intro hq
      exact lt_of_le_of_ne (hneg (by linarith)) hne
    · intro hround
      by_contra hq
      exact absurd (hpos (by linarith)) (not_le.2 hround)
  rw [ofRat, ofRat, fixed_eq_signed, fixed_eq_signed, ← h]
  by_cases hzero : roundHalfEven (q * 1000) = 0
  · -- what is rounded to zero has no sign in the end
    have hnothing : ∀ negative, shortened (signed negative (ofUnits 3 0)) = "0".toList := by
      decide +kernel
    rw [hzero, Int.natAbs_zero, hnothing, hnothing]
  · have hsame : decide (q < 0) = decide (r < 0) := by
      rw [decide_eq_decide, hsign hzero, hsign (by rwa [← h]), h]
    rw [hsame]

/-! ## Numbers of any kind -/

/-- **A number is written as the nearest thousandth.**  Take two numbers, of any kind, that stand
for rational numbers, as all finite doubles do.  The first is written as a canonical numeral, which
denotes the multiple of a thousandth nearest to the number, of two the one with the even multiplier,
and is off by at most half a thousandth.  If the first is not greater than the second, neither is
what it is written as.  Both are written alike exactly when they are rounded alike. -/
theorem short_denotes {α : Type} [Measure α] {x y : α} {q r : Rat}
    (hx : Measure.value x = .exact q) (hy : Measure.value y = .exact r) :
    IsCanonical (short x) ∧
      (∃ n : Int, IsNearest (q * 1000) n ∧ denoted (short x) = n / 1000) ∧
      |denoted (short x) - q| ≤ 1 / 2000 ∧
      (q ≤ r → denoted (short x) ≤ denoted (short y)) ∧
      (short x = short y ↔ ∃ n : Int, IsNearest (q * 1000) n ∧ IsNearest (r * 1000) n) := by
  have hshort : ∀ {z : α} {p : Rat}, Measure.value z = .exact p → short z = ofRat p := by
    intro z p hz
    rw [short, hz, ofValue]
  have hq := isNearest_roundHalfEven (q * 1000)
  have hr := isNearest_roundHalfEven (r * 1000)
  rw [hshort hx, hshort hy, denoted_ofRat, denoted_ofRat]
  refine ⟨isCanonical_ofRat q, ⟨_, hq, rfl⟩, ?_, fun hle => ?_, fun heq => ?_, ?_⟩
  · have hhalf := abs_roundHalfEven_sub_le (q * 1000)
    rw [abs_le] at hhalf ⊢
    constructor <;> linarith
  · have hround : (roundHalfEven (q * 1000) : Rat) ≤ roundHalfEven (r * 1000) := by
      exact_mod_cast hq.mono hr (by linarith)
    linarith
  · -- the numerals denote the thousandths, so these are the same
    have hdenoted := congrArg denoted heq
    rw [denoted_ofRat, denoted_ofRat, div_left_inj' (by norm_num)] at hdenoted
    have hround : roundHalfEven (q * 1000) = roundHalfEven (r * 1000) := by exact_mod_cast hdenoted
    exact ⟨_, hq, hround ▸ hr⟩
  · rintro ⟨n, hn, hn'⟩
    exact ofRat_congr ((hq.unique hn).trans (hn'.unique hr))

/-- A tie is rounded to the even digit, and what is rounded to zero has no sign. -/
theorem short_denotes_tie :
    Measure.value (0.0625 : Float) = .exact (1 / 16) ∧
      Measure.value (-0.0001220703125 : Float) = .exact (-1 / 8192) ∧
      short (0.0625 : Float) = "0.062".toList ∧ short (-0.0001220703125 : Float) = "0".toList ∧
      IsCanonical "0.062".toList ∧
      (∃ n : Int, IsNearest (1 / 16 * 1000) n ∧ denoted "0.062".toList = n / 1000) ∧
      |denoted "0.062".toList - 1 / 16| ≤ 1 / 2000 ∧
      ("0.062".toList = "0".toList ↔
        ∃ n : Int, IsNearest (1 / 16 * 1000) n ∧ IsNearest (-1 / 8192 * 1000) n) := by
  have hx : Measure.value (0.0625 : Float) = .exact (1 / 16) := by decide +kernel
  have hy : Measure.value (-0.0001220703125 : Float) = .exact (-1 / 8192) := by decide +kernel
  have hshort : short (0.0625 : Float) = "0.062".toList := by decide +kernel
  have hshort' : short (-0.0001220703125 : Float) = "0".toList := by decide +kernel
  have h := short_denotes hx hy
  rw [hshort, hshort'] at h
  exact ⟨hx, hy, hshort, hshort', h.1, h.2.1, h.2.2.1, h.2.2.2.2⟩

end Prepress.Amount
