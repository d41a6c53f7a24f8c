/-
# Classes of characters

A text lies within a class when all its characters do (`Within`).  The plain characters are those
that can be printed in ASCII.  All numerals and all fixed pieces of markup are plain, so a line
that is put together from a source and from fixed pieces lies within every class that holds the
plain characters and those of the source.
-/
import Prepress.Text.Lines
import Prepress.Text.Numeral

namespace Prepress.Text

open scoped List

/-! ## Literals -/

/-- A literal is put together as the characters are that it is written with. -/
theorem literal_eq_append {l a b : Text} (h : l = a ++ b) :
    (String.ofList l).toList = (String.ofList a).toList ++ (String.ofList b).toList := by
  rw [String.toList_ofList, String.toList_ofList, String.toList_ofList, h]

theorem literal_eq_cons {l a : Text} {c : Char} (h : l = c :: a) :
    (String.ofList l).toList = c :: (String.ofList a).toList := by
  rw [String.toList_ofList, String.toList_ofList, h]

/-! ## Texts within a class of characters -/

variable {P : Char → Prop}

/-- What holds of all characters of a text is decided character by character. -/
instance decidableForallMem [DecidablePred P] (t : Text) : Decidable (∀ c ∈ t, P c) :=
  List.decidableBAll P t

/-- What holds of some character of a text is decided character by character. -/
instance decidableExistsMem [DecidablePred P] (t : Text) : Decidable (∃ c ∈ t, P c) :=
  List.decidableBEx P t

/-- All characters of a text have a property. -/
def Within (P : Char → Prop) (t : Text) : Prop := ∀ c ∈ t, P c

instance [DecidablePred P] (t : Text) : Decidable (Within P t) := List.decidableBAll P t

@[simp]
theorem within_nil : Within P [] := by
  intro c hc
  simp at hc

@[simp]
theorem within_cons {c : Char} {t : Text} : Within P (c :: t) ↔ P c ∧ Within P t :=
  List.forall_mem_cons

@[simp]
theorem within_append {a b : Text} : Within P (a ++ b) ↔ Within P a ∧ Within P b :=
  List.forall_mem_append

theorem Within.append {a b : Text} (ha : Within P a) (hb : Within P b) : Within P (a ++ b) :=
  within_append.2 ⟨ha, hb⟩

theorem Within.sublist {s t : Text} (h : Within P t) (hs : s <+ t) : Within P s :=
  fun c hc => h c (hs.subset hc)

/-- A character outside of a class is in no text within the class. -/
theorem Within.not_mem {t : Text} (h : Within P t) {c : Char} (hc : ¬ P c) : c ∉ t :=
  fun hm => hc (h c hm)

theorem Within.imp {Q : Char → Prop} {t : Text} (h : Within P t) (hQ : ∀ c, P c → Q c) :
    Within Q t :=
  fun c hc => hQ c (h c hc)

theorem within_flatMap {β : Type} {f : β → Text} {l : List β} (h : ∀ b ∈ l, Within P (f b)) :
    Within P (l.flatMap f) := by
  intro c hc
  obtain ⟨b, hb, hcb⟩ := List.mem_flatMap.1 hc
  exact h b hb c hcb

/-- A literal is within a class when the characters it is written with are. -/
theorem within_literal {l : Text} (h : Within P l) : Within P (String.ofList l).toList := by
  rwa [String.toList_ofList]

/-- A character of a class may be put before the first of some lines within it. -/
theorem within_consLine {c : Char} (hc : P c) {ls : List Text} (h : ∀ l ∈ ls, Within P l) :
    ∀ l ∈ consLine c ls, Within P l := by
  cases ls with
  | nil => exact List.forall_mem_singleton.2 (within_cons.2 ⟨hc, within_nil⟩)
  | cons k ks =>
      obtain ⟨hk, hks⟩ := List.forall_mem_cons.1 h
      exact List.forall_mem_cons.2 ⟨within_cons.2 ⟨hc, hk⟩, hks⟩

theorem join_cons (between l : Text) {ls : List Text} (h : ls ≠ []) :
    join between (l :: ls) = l ++ between ++ join between ls := by
  rw [join]
  exact h

theorem join_concat (between l : Text) {ls : List Text} (h : ls ≠ []) :
    join between (ls ++ [l]) = join between ls ++ between ++ l := by
  induction ls with
  | nil => exact absurd rfl h
  | cons k ls ih =>
      by_cases hls : ls = []
      · rw [hls]
        rfl
      · rw [List.cons_append, join_cons between k (by simp), ih hls, join_cons between k hls]
        simp only [List.append_assoc]

/-- Lines within a class stay within it when they are joined. -/
theorem within_join {between : Text} {ls : List Text} (hb : Within P between)
    (h : ∀ l ∈ ls, Within P l) : Within P (join between ls) := by
  induction ls with
  | nil => exact within_nil
  | cons l ls ih =>
      by_cases hls : ls = []
      · rw [hls]
        exact h l (by simp)
      · rw [join_cons between l hls, within_append, within_append]
        exact ⟨⟨h l (by simp), hb⟩, ih (fun k hk => h k (List.mem_cons_of_mem l hk))⟩

/-- Joined lines with the same text after the last of them are lines with that text after each. -/
theorem join_append {between : Text} {ls : List Text} (h : ls ≠ []) :
    join between ls ++ between = ls.flatMap (· ++ between) := by
  induction ls with
  | nil => exact absurd rfl h
  | cons l ls ih =>
      by_cases hls : ls = []
      · rw [hls, join, List.flatMap_singleton]
      · rw [join_cons between l hls, List.append_assoc, ih hls]
        rfl

/-- What a condition drops of a text does not reach beyond a character that fails it. -/
theorem dropWhile_append_cons {p : Char → Bool} {c : Char} (hc : p c = false) (a b : Text) :
    (a ++ c :: b).dropWhile p = a.dropWhile p ++ c :: b := by
  rw [List.dropWhile_append]
  split
  · next h => rw [List.isEmpty_iff.1 h, List.dropWhile_cons_of_neg (by simp [hc]), List.nil_append]
  · rfl

/-! ## Plain characters -/

/-- The characters that can be printed in ASCII. -/
def IsPlain (c : Char) : Prop := 0x20 ≤ c.toNat ∧ c.toNat ≤ 0x7E

instance (c : Char) : Decidable (IsPlain c) := by
  unfold IsPlain
  infer_instance

/-- A plain text lies within every class that holds the plain characters. -/
theorem within_of_isPlain (hP : ∀ c, IsPlain c → P c) {t : Text} (h : Within IsPlain t) :
    Within P t :=
  h.imp hP

/-- A literal of plain characters lies within every class that holds the plain characters. -/
theorem within_plain (hP : ∀ c, IsPlain c → P c) {l : Text} (h : Within IsPlain l) :
    Within P (String.ofList l).toList :=
  within_of_isPlain hP (within_literal h)

theorem toNat_of_isDigit {c : Char} (h : c.isDigit = true) : 48 ≤ c.toNat ∧ c.toNat ≤ 57 := by
  simp only [Char.isDigit, Bool.and_eq_true, decide_eq_true_eq] at h
  exact h

theorem toNat_of_isAlpha {c : Char} (h : c.isAlpha = true) : 65 ≤ c.toNat ∧ c.toNat ≤ 122 := by
  have halpha : c.isAlpha = (decide (c.val ≥ 'A'.val ∧ c.val ≤ 'Z'.val)
      || (decide (c.val ≥ 'a'.val) && decide (c.val ≤ 'z'.val))) := rfl
  rw [halpha, Bool.or_eq_true, Bool.and_eq_true, decide_eq_true_eq, decide_eq_true_eq,
    decide_eq_true_eq] at h
  rcases h with h | h
  · have h1 : 65 ≤ c.toNat := h.1
    have h2 : c.toNat ≤ 90 := h.2
    exact ⟨by omega, by omega⟩
  · have h1 : 97 ≤ c.toNat := h.1
    have h2 : c.toNat ≤ 122 := h.2
    exact ⟨by omega, by omega⟩

/-- In lower case a character stays as it is, unless it is a capital letter. -/
theorem toLower_eq_cases (c : Char) :
    c.toLower = c ∨ c.isUpper = true ∧ c.toLower.isLower = true := by
  by_cases hc : c.val ≥ 'A'.val ∧ c.val ≤ 'Z'.val
  · right
    have hval : c.toLower.val = c.val + 32 := congrArg Char.val (dif_pos hc)
    have hlower : c.toLower.isLower
        = (decide (c.toLower.val ≥ 'a'.val) && decide (c.toLower.val ≤ 'z'.val)) := rfl
    have hfirst : 65 ≤ c.val.toNat := UInt32.le_iff_toNat_le.1 hc.1
    have hlast : c.val.toNat ≤ 90 := UInt32.le_iff_toNat_le.1 hc.2
    have hsum : (c.val + 32).toNat = c.val.toNat + 32 := by
      rw [UInt32.toNat_add]
      exact Nat.mod_eq_of_lt (by show c.val.toNat + 32 < 4294967296; omega)
    refine ⟨decide_eq_true hc, ?_⟩
    rw [hlower, hval, Bool.and_eq_true, decide_eq_true_eq, decide_eq_true_eq, ge_iff_le,
      UInt32.le_iff_toNat_le, UInt32.le_iff_toNat_le, hsum]
    show 97 ≤ c.val.toNat + 32 ∧ c.val.toNat + 32 ≤ 122
    omega
  · left
    exact dif_neg hc

/-- What becomes a small letter is a letter. -/
theorem isAlpha_of_isLower_toLower {c : Char} (h : c.toLower.isLower = true) :
    c.isAlpha = true := by
  show (c.isUpper || c.isLower) = true
  rcases toLower_eq_cases c with hc | ⟨hc, -⟩
  · rw [hc] at h
    rw [h, Bool.or_true]
  · rw [hc, Bool.true_or]

theorem isPlain_of_isDigit {c : Char} (h : c.isDigit = true) : IsPlain c := by
  obtain ⟨h1, h2⟩ := toNat_of_isDigit h
  exact ⟨by omega, by omega⟩

theorem isPlain_of_isAlpha {c : Char} (h : c.isAlpha = true) : IsPlain c := by
  obtain ⟨h1, h2⟩ := toNat_of_isAlpha h
  exact ⟨by omega, by omega⟩

/-- All digits of a decimal numeral are digits. -/
theorem isDigit_of_mem_ofNat {n : Nat} {c : Char} (h : c ∈ ofNat n) : c.isDigit = true :=
  Nat.isDigit_of_mem_toDigits (by decide) (by decide) h

theorem within_ofNat (n : Nat) : Within IsPlain (ofNat n) :=
  fun _ hc => isPlain_of_isDigit (isDigit_of_mem_ofNat hc)

theorem within_ofInt (n : Int) : Within IsPlain (ofInt n) := by
  cases n with
  | ofNat n => exact within_ofNat n
  | negSucc n => exact within_cons.2 ⟨by decide, within_ofNat (n + 1)⟩

/-- A numeral of an integer has digits and perhaps a minus sign. -/
theorem not_mem_ofInt {c : Char} (hd : c.isDigit = false) (hm : c ≠ '-') (n : Int) :
    c ∉ ofInt n := by
  have hnat : ∀ k, c ∉ ofNat k := by
    intro k hk
    rw [isDigit_of_mem_ofNat hk] at hd
    simp at hd
  cases n with
  | ofNat k => exact hnat k
  | negSucc k =>
      rw [ofInt, List.mem_cons, not_or]
      exact ⟨hm, hnat (k + 1)⟩

theorem within_padLeft {fill : Char} {width : Nat} {t : Text} (hf : P fill) (ht : Within P t) :
    Within P (padLeft fill width t) := by
  rw [padLeft, within_append]
  refine ⟨?_, ht⟩
  intro c hc
  rw [List.eq_of_mem_replicate hc]
  exact hf

theorem within_zeroPadded (width n : Nat) : Within IsPlain (zeroPadded width n) :=
  within_padLeft (by decide) (within_ofNat n)

end Prepress.Text
