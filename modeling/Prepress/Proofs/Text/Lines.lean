/-
# Lines of a text

Trimming leaves a text alone exactly when it has no blank at either end (`trim_eq_self_iff`).  It
takes blanks from the ends and nothing else (`exists_trim`), so it does not reach beyond another
character (`trim_append_cons`), and blanks around a text do not count (`trim_append_left`,
`trim_append_right`).  The content of a text is read line by line: what stands before a line
boundary and what stands after it are read one after the other, wherever the boundary is
(`contentLines_append_break`).
-/
import Mathlib.Data.List.Induction
import Mathlib.Data.List.TakeWhile
import Prepress.Proofs.Text.Sublist
import Prepress.Proofs.Text.Within

namespace Prepress.Text

/-! ## Blanks -/

/-- The code points of the blanks. -/
def blankCodes : List Nat :=
  [0x20, 0x09, 0x0A, 0x0B, 0x0C, 0x0D, 0x1C, 0x1D, 0x1E, 0x1F, 0x85, 0xA0, 0x1680, 0x2000, 0x2001,
    0x2002, 0x2003, 0x2004, 0x2005, 0x2006, 0x2007, 0x2008, 0x2009, 0x200A, 0x2028, 0x2029, 0x202F,
    0x205F, 0x3000]

/-- What holds of the characters with these code points holds of every blank. -/
theorem forall_of_isBlank {P : Char → Prop} (hall : ∀ n ∈ blankCodes, P (Char.ofNat n)) {c : Char}
    (hc : isBlank c = true) : P c := by
  have hcode : c.toNat ∈ blankCodes := by
    simp only [isBlank, Bool.or_eq_true, Bool.and_eq_true, decide_eq_true_eq, beq_iff_eq] at hc
    simp only [blankCodes, List.mem_cons, List.not_mem_nil, or_false]
    omega
  have hp := hall c.toNat hcode
  rwa [Char.ofNat_toNat] at hp

/-! ## Trimmed texts -/

theorem trimStart_cons {c : Char} (hc : isBlank c = false) (t : Text) :
    trimStart (c :: t) = c :: t :=
  List.dropWhile_cons_of_neg (by simp [hc])

/-- A blank at the end does not count. -/
theorem trimEnd_concat_of_isBlank {c : Char} (hc : isBlank c = true) (t : Text) :
    trimEnd (t ++ [c]) = trimEnd t := by
  induction t with
  | nil => simp [trimEnd, hc]
  | cons d t ih => rw [List.cons_append, trimEnd, trimEnd, ih]

/-- Trimming does not reach beyond a character that is not blank. -/
theorem trimStart_append_cons {c : Char} (hc : isBlank c = false) (a b : Text) :
    trimStart (a ++ c :: b) = trimStart a ++ c :: b :=
  dropWhile_append_cons hc a b

theorem trimEnd_append_cons {c : Char} (hc : isBlank c = false) (a b : Text) :
    trimEnd (a ++ c :: b) = a ++ c :: trimEnd b := by
  induction a with
  | nil =>
      rw [List.nil_append, trimEnd]
      split
      · next h => simp [h, hc]
      · rfl
  | cons d a ih =>
      rw [List.cons_append, trimEnd, ih]
      cases a <;> rfl

theorem trim_append_cons {c : Char} (hc : isBlank c = false) (a b : Text) :
    trim (a ++ c :: b) = trimStart a ++ c :: trimEnd b := by
  rw [trim, trimStart_append_cons hc, trimEnd_append_cons hc]

theorem trimEnd_concat {c : Char} (hc : isBlank c = false) (t : Text) :
    trimEnd (t ++ [c]) = t ++ [c] :=
  trimEnd_append_cons hc t []

/-- Nothing is trimmed at the start exactly when the first character is not blank. -/
theorem trimStart_eq_self_iff {t : Text} :
    trimStart t = t ↔ ∀ c, t.head? = some c → isBlank c = false := by
  cases t with
  | nil => exact iff_of_true rfl (by simp)
  | cons c t =>
      simp only [List.head?_cons, Option.some.injEq, forall_eq']
      cases hb : isBlank c with
      | false => exact iff_of_true (trimStart_cons hb t) rfl
      | true =>
          refine iff_of_false ?_ (by simp)
          intro h
          have hle := length_dropWhile_le isBlank t
          rw [trimStart, List.dropWhile_cons_of_pos hb] at h
          rw [h, List.length_cons] at hle
          omega

/-- Nothing is trimmed at the end exactly when the last character is not blank. -/
theorem trimEnd_eq_self_iff {t : Text} :
    trimEnd t = t ↔ ∀ c, t.getLast? = some c → isBlank c = false := by
  rcases List.eq_nil_or_concat t with rfl | ⟨s, c, rfl⟩
  · exact iff_of_true rfl (by simp)
  · simp only [List.concat_eq_append, List.getLast?_concat, Option.some.injEq, forall_eq']
    cases hb : isBlank c with
    | false => exact iff_of_true (trimEnd_concat hb s) rfl
    | true =>
        refine iff_of_false ?_ (by simp)
        intro h
        rw [trimEnd_concat_of_isBlank hb] at h
        have hle := (trimEnd_isPrefix s).length_le
        rw [h, List.length_append, List.length_singleton] at hle
        omega

/-- A text is trimmed exactly when neither its first nor its last character is blank. -/
theorem trim_eq_self_iff {t : Text} :
    trim t = t ↔ (∀ c, t.head? = some c → isBlank c = false) ∧
      ∀ c, t.getLast? = some c → isBlank c = false := by
  rw [← trimStart_eq_self_iff, ← trimEnd_eq_self_iff]
  constructor
  · intro h
    have hle : t.length ≤ (trimStart t).length := by
      have := (trimEnd_isPrefix (trimStart t)).length_le
      rwa [← trim, h] at this
    have hstart : trimStart t = t :=
      (trimStart_isSuffix t).eq_of_length (Nat.le_antisymm (trimStart_isSuffix t).length_le hle)
    rw [trim, hstart] at h
    exact ⟨hstart, h⟩
  · rintro ⟨hstart, hend⟩
    rw [trim, hstart, hend]

/-- Blanks before a text do not count. -/
theorem trimStart_append {a : Text} (ha : isAllBlank a = true) (t : Text) :
    trimStart (a ++ t) = trimStart t := by
  rw [isAllBlank, List.all_eq_true] at ha
  exact List.dropWhile_append_of_pos ha

theorem trim_append_left {a : Text} (ha : isAllBlank a = true) (t : Text) :
    trim (a ++ t) = trim t := by
  rw [trim, trimStart_append ha, trim]

/-- Blanks after a text do not count. -/
theorem trimEnd_append {b : Text} (hb : isAllBlank b = true) (t : Text) :
    trimEnd (t ++ b) = trimEnd t := by
  induction b generalizing t with
  | nil => rw [List.append_nil]
  | cons c b ih =>
      rw [isAllBlank, List.all_cons, Bool.and_eq_true] at hb
      rw [List.append_cons, ih hb.2, trimEnd_concat_of_isBlank hb.1]

theorem trim_append_right {b : Text} (hb : isAllBlank b = true) (t : Text) :
    trim (t ++ b) = trim t := by
  have hblank : trimStart b = [] := by
    rw [isAllBlank, List.all_eq_true] at hb
    exact List.dropWhile_eq_nil_iff.2 hb
  rw [trim, trim, trimStart, List.dropWhile_append]
  split
  · next h =>
      have hnone : trimStart t = [] := List.isEmpty_iff.1 h
      rw [← trimStart, hblank, hnone]
  · exact trimEnd_append hb _

/-- Nothing is left of a blank text. -/
theorem trim_of_isAllBlank {t : Text} (h : isAllBlank t = true) : trim t = [] := by
  have ht := trim_append_left h []
  rwa [List.append_nil] at ht

/-- A trimmed text is blank only if it is empty. -/
theorem isAllBlank_of_trim_eq {t : Text} (h : trim t = t) : isAllBlank t = t.isEmpty := by
  rw [Bool.eq_iff_iff, List.isEmpty_iff]
  constructor
  · intro hb
    rw [← h, trim_of_isAllBlank hb]
  · rintro rfl
    rfl

theorem not_mem_of_isAllBlank {t : Text} (h : isAllBlank t = true) {c : Char}
    (hc : isBlank c = false) : c ∉ t := by
  intro hm
  rw [List.all_eq_true.1 h c hm] at hc
  simp at hc

theorem exists_trimEnd (t : Text) : ∃ b, isAllBlank b = true ∧ t = trimEnd t ++ b := by
  induction t using List.reverseRecOn with
  | nil => exact ⟨[], rfl, rfl⟩
  | append_singleton t c ih =>
      cases hc : isBlank c with
      | false => exact ⟨[], rfl, by rw [trimEnd_concat hc, List.append_nil]⟩
      | true =>
          obtain ⟨b, hb, ht⟩ := ih
          refine ⟨b ++ [c], ?_, ?_⟩
          · rw [isAllBlank] at hb ⊢
            rw [List.all_append, hb, List.all_cons, hc]
            rfl
          · rw [trimEnd_concat_of_isBlank hc, ← List.append_assoc, ← ht]

/-- Trimming takes blanks from the ends and nothing else. -/
theorem exists_trim (t : Text) :
    ∃ a b, isAllBlank a = true ∧ isAllBlank b = true ∧ t = a ++ (trim t ++ b) := by
  obtain ⟨b, hb, ht⟩ := exists_trimEnd (trimStart t)
  refine ⟨t.takeWhile isBlank, b, ?_, hb, ?_⟩
  · exact List.all_eq_true.2 fun c hc => List.mem_takeWhile_imp hc
  · rw [trim, ← ht, trimStart, List.takeWhile_append_dropWhile]

/-- A trimmed text is trimmed. -/
theorem trim_trim (t : Text) : trim (trim t) = trim t := by
  obtain ⟨a, b, ha, hb, ht⟩ := exists_trim t
  have htrim : trim t = trim (a ++ (trim t ++ b)) := congrArg trim ht
  rw [trim_append_left ha, trim_append_right hb] at htrim
  exact htrim.symm

/-! ## Lines -/

/-- A character that is no boundary stands in the first line. -/
theorem lines_cons {c : Char} (hc : isLineBreak c = false) (t : Text) :
    lines (c :: t) = consLine c (lines t) := by
  rw [lines, hc, if_neg (by simp)]
  intro s he _
  rw [he] at hc
  exact absurd hc (by decide)

/-- A text without a boundary in it is its only line, if it is not empty. -/
theorem lines_last {l : Text} (hl : ∀ c ∈ l, isLineBreak c = false) (hne : l ≠ []) :
    lines l = [l] := by
  induction l with
  | nil => exact absurd rfl hne
  | cons c l ih =>
      rw [lines_cons (hl c (by simp))]
      by_cases h : l = []
      · rw [h]
        rfl
      · rw [ih (fun d hd => hl d (List.mem_cons_of_mem c hd)) h]
        rfl

/-- A boundary ends a line that has none in it; a carriage return does so by itself if no line feed
follows it. -/
theorem lines_line {l : Text} (hl : ∀ c ∈ l, isLineBreak c = false) {b : Char}
    (hb : isLineBreak b = true) {t : Text} (ht : b = '\r' → t.head? ≠ some '\n') :
    lines (l ++ b :: t) = l :: lines t := by
  induction l with
  | nil =>
      rw [List.nil_append, lines, if_pos hb]
      intro s he hs
      exact ht he (by rw [hs]; rfl)
  | cons c l ih =>
      rw [List.cons_append, lines_cons (hl c (by simp)),
        ih fun d hd => hl d (List.mem_cons_of_mem c hd)]
      rfl

/-- A carriage return and a line feed end a line together. -/
theorem lines_line_return {l : Text} (hl : ∀ c ∈ l, isLineBreak c = false) (t : Text) :
    lines (l ++ '\r' :: '\n' :: t) = l :: lines t := by
  induction l with
  | nil => rw [List.nil_append, lines]
  | cons c l ih =>
      rw [List.cons_append, lines_cons (hl c (by simp)),
        ih fun d hd => hl d (List.mem_cons_of_mem c hd)]
      rfl

/-- No boundary stands within a line. -/
theorem not_isLineBreak_of_mem_lines (t : Text) :
    ∀ l ∈ lines t, Within (isLineBreak · = false) l := by
  fun_induction lines t with
  | case1 => simp
  | case2 t ih => exact List.forall_mem_cons.2 ⟨within_nil, ih⟩
  | case3 c t _ _ ih => exact List.forall_mem_cons.2 ⟨within_nil, ih⟩
  | case4 c t _ hc ih => exact within_consLine (by simpa using hc) ih

/-! ## Lines with content -/

/-- What a line adds to the content lines: itself, trimmed, unless it is blank. -/
def content? (l : Text) : Option Text := if isAllBlank l then none else some (trim l)

theorem contentLines_eq (t : Text) : contentLines t = (lines t).filterMap content? := rfl

/-- A boundary at the beginning of a text opens no line with content. -/
theorem contentLines_cons {b : Char} (hb : isLineBreak b = true) {t : Text}
    (ht : b = '\r' → t.head? ≠ some '\n') : contentLines (b :: t) = contentLines t := by
  have hlines : lines (b :: t) = [] :: lines t := lines_line (l := []) (by simp) hb ht
  rw [contentLines_eq, hlines]
  rfl

/-- The content of a line that is ended by a boundary comes before that of the other lines. -/
theorem contentLines_line {l : Text} (hl : ∀ c ∈ l, isLineBreak c = false) {b : Char}
    (hb : isLineBreak b = true) (t : Text) :
    contentLines (l ++ b :: t) = (content? l).toList ++ contentLines t := by
  have hcons : ∀ ls : List Text,
      (l :: ls).filterMap content? = (content? l).toList ++ ls.filterMap content? := by
    intro ls
    rw [List.filterMap_cons]
    cases content? l <;> rfl
  by_cases ht : b = '\r' → t.head? ≠ some '\n'
  · rw [contentLines_eq, lines_line hl hb ht, hcons]
    rfl
  · -- the carriage return and the line feed after it are one boundary
    rw [Classical.not_imp, not_not] at ht
    obtain ⟨s, hs⟩ := List.head?_eq_some_iff.1 ht.2
    rw [ht.1, hs, contentLines_eq, lines_line_return hl, hcons,
      contentLines_cons (by decide) fun he => absurd he (by decide)]
    rfl

theorem contentLines_last {l : Text} (hl : ∀ c ∈ l, isLineBreak c = false) :
    contentLines l = (content? l).toList := by
  by_cases hne : l = []
  · rw [hne]
    rfl
  · rw [contentLines_eq, lines_last hl hne, List.filterMap_cons]
    cases content? l <;> rfl

/-- **Content lines split at a boundary.**  The content of a text before a boundary and of a text
after it is that of the whole text, whatever the texts are. -/
theorem contentLines_append_break {b : Char} (hb : isLineBreak b = true) (s t : Text) :
    contentLines (s ++ b :: t) = contentLines s ++ contentLines t := by
  cases hfirst : s.find? isLineBreak with
  | none =>
      have hs : ∀ c ∈ s, isLineBreak c = false := by
        simpa using List.find?_eq_none.1 hfirst
      rw [contentLines_line hs hb, contentLines_last hs]
  | some d =>
      -- the first boundary of the first text ends its first line
      obtain ⟨hd, l, r, hs, hl⟩ := List.find?_eq_some_iff_append.1 hfirst
      have hlines : ∀ c ∈ l, isLineBreak c = false := by simpa using hl
      have hlength : r.length < s.length := by
        rw [hs, List.length_append, List.length_cons]
        omega
      rw [hs, List.append_assoc, List.cons_append, contentLines_line hlines hd,
        contentLines_line hlines hd, contentLines_append_break hb r t, List.append_assoc]
termination_by s.length

/-- A line feed at the end of a text brings in no content. -/
theorem contentLines_concat (t : Text) : contentLines (t ++ ['\n']) = contentLines t := by
  rw [contentLines_append_break (by decide)]
  exact List.append_nil _

/-- Lines are read one by one from a text that joins them. -/
theorem contentLines_join (ls : List Text) :
    contentLines (join ['\n'] ls) = ls.flatMap contentLines := by
  induction ls with
  | nil => rfl
  | cons l ls ih =>
      by_cases hls : ls = []
      · rw [hls, List.flatMap_singleton]
        rfl
      · rw [join_cons _ l hls, List.append_assoc, List.singleton_append,
          contentLines_append_break (by decide), ih, List.flatMap_cons]

end Prepress.Text
