/-
# Lines that describe tasks

A line of a label, a colon and more describes a task with that label, unless it is read as the
title, as a heading or as a directive (`IsLabel`, `classify_label`).  The safe form of a label is a
label again (`IsLabel.sanitize`): no spelling of the surface begins like a letter of a keyword, so
that making a line safe completes no keyword.  What stands after the colon is read in parts between
commas, one by one (`parts_append_comma`).
-/
import Prepress.Proofs.Surface
import Prepress.Proofs.Text.Layout
import Prepress.Proofs.Text.Occurrence
import Prepress.Timeline.Reading

namespace Prepress.Timeline

open Text

/-! ## Keywords -/

/-- A keyword is made of small letters that no spelling of the surface begins with. -/
def IsKeyword (keyword : Text) : Prop :=
  ∀ c ∈ keyword, c.isLower = true ∧ c ∉ Surface.spellingHeads

instance (keyword : Text) : Decidable (IsKeyword keyword) := by
  unfold IsKeyword
  infer_instance

theorem IsKeyword.not_mem {keyword : Text} (h : IsKeyword keyword) {c : Char}
    (hc : c.isLower = false) : c ∉ keyword := by
  intro hm
  rw [(h c hm).1] at hc
  simp at hc

/-- A keyword has an argument on a line that begins with it and a space, letter case aside. -/
theorem argument?_eq_none_iff {keyword line : Text} :
    Line.argument? keyword line = none ↔ ¬ keyword ++ [' '] <+: line.map Char.toLower := by
  rw [Line.argument?, List.prefix_iff_eq_take, ← List.map_take]
  split
  · next h => exact ⟨fun he => absurd he (by simp), fun he => absurd h.symm he⟩
  · next h => exact ⟨fun _ he => h he.symm, fun _ => rfl⟩

/-- A line begins with a directive or not, letter case aside. -/
theorem ignored?_eq_none_iff {directives : List Text} {line : Text} :
    Line.ignored? directives line = none ↔ ∀ k ∈ directives, ¬ k.lower <+: line.lower := by
  rw [Line.ignored?, List.find?_eq_none]
  simp only [startsWith_iff]

/-- The text before the first space. -/
def firstWord (t : Text) : Text := t.takeWhile (· != ' ')

theorem firstWord_append {a : Text} (ha : ' ' ∉ a) (t : Text) : firstWord (a ++ ' ' :: t) = a := by
  have hspace : ∀ c ∈ a, (c != ' ') = true := by
    intro c hc
    rw [bne_iff_ne]
    rintro rfl
    exact ha hc
  rw [firstWord, List.takeWhile_append_of_pos hspace, List.takeWhile_cons_of_neg (by decide),
    List.append_nil]

/-- A space at the end does not change the first word. -/
theorem firstWord_concat (t : Text) : firstWord (t ++ [' ']) = firstWord t := by
  by_cases h : ' ' ∈ t
  · obtain ⟨a, b, rfl, ha⟩ := List.eq_append_cons_of_mem h
    rw [List.append_assoc, List.cons_append, firstWord_append ha, firstWord_append ha]
  · rw [firstWord_append h, firstWord, eq_comm, List.takeWhile_eq_self_iff]
    intro c hc
    rw [bne_iff_ne]
    rintro rfl
    exact h hc

/-- A line that a keyword and a space begin has the keyword as its first word, letter case aside. -/
theorem argument?_eq_none_of_firstWord {keyword l : Text} (hk : IsKeyword keyword)
    (h : (firstWord l).map Char.toLower ≠ keyword) :
    Line.argument? keyword (l ++ [' ']) = none := by
  rw [argument?_eq_none_iff]
  rintro ⟨r, hr⟩
  rw [List.append_assoc, eq_comm, List.map_eq_append_iff] at hr
  obtain ⟨a, b, hab, ha, hb⟩ := hr
  obtain ⟨c, t, rfl, hc, -⟩ := List.map_eq_cons_iff.1 hb
  -- the character that becomes a space is a space
  have hspace : c = ' ' := by
    rcases toLower_eq_cases c with he | ⟨-, he⟩
    · exact he.symm.trans hc
    · rw [hc] at he
      exact absurd he (by decide)
  have hword : ' ' ∉ a := by
    intro hm
    have hmem : ' ' ∈ keyword := ha ▸ List.mem_map_of_mem hm
    exact hk.not_mem (by decide) hmem
  rw [hspace] at hab
  rw [← firstWord_concat, hab, firstWord_append hword, ha] at h
  exact h rfl

/-- The directives that are passed over in a timeline that says nothing about them. -/
def standardDirectives : List Text := ["dateformat".toList, "axisformat".toList]

theorem isKeyword_standardDirectives : ∀ k ∈ standardDirectives, IsKeyword k.lower := by
  decide +kernel

/-- A character that is no small letter and that lower case leaves alone. -/
def IsCaseless (c : Char) : Prop :=
  c.isLower = false ∧ c.toLower = c ∧ lowerChar c = c ∧ c ≠ 'Σ' ∧ c ≠ 'İ'

instance (c : Char) : Decidable (IsCaseless c) := by
  unfold IsCaseless
  infer_instance

theorem isCaseless_of_isBlank {c : Char} (h : isBlank c = true) : IsCaseless c := by
  have hall : ∀ n ∈ blankCodes, IsCaseless (Char.ofNat n) := by decide +kernel
  exact forall_of_isBlank hall h

/-- Spacing and a colon begin with a character without case. -/
theorem isCaseless_of_head? {b : Text} (hb : IsSpacing b) {t : Text} {c : Char}
    (hc : (b ++ ':' :: t).head? = some c) : IsCaseless c := by
  cases b with
  | nil =>
      rw [← Option.some.inj hc]
      decide
  | cons d b =>
      rw [← Option.some.inj hc]
      exact isCaseless_of_isBlank (hb d (by simp)).1

/-- What comes after a text does not make a keyword of it, if it begins with a character without
case. -/
theorem argument?_append_eq_none {keyword l : Text} (hk : IsKeyword keyword)
    (h : Line.argument? keyword (l ++ [' ']) = none) {t : Text}
    (ht : ∀ c, t.head? = some c → IsCaseless c) : Line.argument? keyword (l ++ t) = none := by
  rw [argument?_eq_none_iff, List.map_append] at h ⊢
  change ¬ keyword ++ [' '] <+: l.map Char.toLower ++ [' '] at h
  intro hp
  rcases List.prefix_or_prefix_of_prefix hp (List.prefix_append _ _) with hl | hl
  · exact h (hl.trans (List.prefix_append _ _))
  · rcases List.prefix_concat_iff.1 hl with he | ⟨k, rfl⟩
    · exact h (he ▸ List.prefix_append _ _)
    · rw [List.append_assoc, List.prefix_append_right_inj] at hp
      cases k with
      | nil =>
          rw [List.append_nil] at h
          exact h List.prefix_rfl
      | cons d k =>
          -- the keyword would go on with a character without case
          cases t with
          | nil => exact absurd (List.prefix_nil.1 hp) (by simp)
          | cons c t =>
              obtain ⟨hsmall, hlower, -⟩ := ht c rfl
              have hd : d = c := (List.cons_prefix_cons.1 hp).1.trans hlower
              exact hk.not_mem hsmall (by simp [hd])

/-! ## Keywords and safe forms -/

theorem toLower_of_mem_spellingHeads {c : Char} (h : c ∈ Surface.spellingHeads) :
    c.toLower = c ∧ lowerChar c = c ∧ c ≠ 'Σ' ∧ c ≠ 'İ' := by
  revert h
  revert c
  decide

/-- Making a line safe completes no keyword at its beginning. -/
theorem argument?_sanitize_eq_none {keyword l t : Text} (hk : IsKeyword keyword)
    (h : Line.argument? keyword (l ++ t) = none) :
    Line.argument? keyword (Surface.sanitize l ++ t) = none := by
  rw [argument?_eq_none_iff] at h ⊢
  refine fun hp => h (Surface.isPrefix_map_of_sanitize
    (fun d hd => (toLower_of_mem_spellingHeads hd).1) ?_ hp)
  intro c hc
  rcases List.mem_append.1 hc with hc | hc
  · exact (hk c hc).2
  · rw [List.mem_singleton.1 hc]
    decide

/-- What a mark is followed by may be exchanged for what every end of the mark begins as well. -/
theorem isPrefix_append_of {mark b x y : Text} (h : mark <+: b ++ x)
    (hxy : ∀ m, m <:+ mark → m <+: x → m <+: y) : mark <+: b ++ y := by
  induction b generalizing mark with
  | nil => exact hxy mark List.suffix_rfl h
  | cons c b ih =>
      cases mark with
      | nil => exact List.nil_prefix
      | cons m mark =>
          rw [List.cons_append, List.cons_prefix_cons] at h ⊢
          exact ⟨h.1, ih h.2 fun k hk => hxy k (hk.trans (List.suffix_cons m mark))⟩

/-- Apart from the capital sigma, a character is put into lower case on its own. -/
theorem lowerAfter_cons {c : Char} (hc : c ≠ 'Σ') :
    ∃ b, ∀ p t, lowerAfter p (c :: t) = b ++ lowerAfter (c :: p) t := by
  refine ⟨if c = 'İ' then ['i', Char.ofNat 0x307] else [lowerChar c], ?_⟩
  intro p t
  rw [lowerAfter, if_neg hc]

/-- Spelling out characters puts no directive at the beginning of a line, and neither does what
begins with a character without case. -/
theorem isPrefix_lowerAfter (form : Char → Text)
    (hform : ∀ c, form c = [c] ∨ ∃ d ∈ Surface.spellingHeads, ∃ s, form c = d :: s)
    {mark : Text} (hm : IsKeyword mark) {l t : Text} (ht : ∀ c, t.head? = some c → IsCaseless c)
    {p q : Text} (h : mark <+: lowerAfter p (l.flatMap form ++ t)) : mark <+: lowerAfter q l := by
  -- what was read before a character decides the form of a sigma only, so it may be any text
  induction l generalizing mark p q with
  | nil =>
      cases t with
      | nil => exact h
      | cons c t =>
          obtain ⟨hsmall, -, hlower, hsigma, hdotted⟩ := ht c rfl
          cases mark with
          | nil => exact List.nil_prefix
          | cons m mark =>
              rw [List.flatMap_nil, List.nil_append, lowerAfter, if_neg hsigma, if_neg hdotted,
                hlower, List.singleton_append, List.cons_prefix_cons] at h
              exact absurd (by rw [h.1]; simp) (hm.not_mem hsmall)
  | cons c l ih =>
      rw [List.flatMap_cons, List.append_assoc] at h
      rcases hform c with hs | ⟨d, hd, s, hs⟩
      · rw [hs, List.singleton_append] at h
        by_cases hc : c = 'Σ'
        · -- neither form of the small sigma stands in a keyword
          rw [lowerAfter, if_pos hc, List.singleton_append] at h
          cases mark with
          | nil => exact List.nil_prefix
          | cons m mark =>
              have hsigma : ∀ b : Bool, (if b then 'ς' else 'σ').isLower = false := by decide
              have hlower := (hm m (by simp)).1
              rw [(List.cons_prefix_cons.1 h).1, hsigma] at hlower
              simp at hlower
        · obtain ⟨b, hb⟩ := lowerAfter_cons hc
          rw [hb] at h ⊢
          exact isPrefix_append_of h fun k hk hp => ih (fun e he => hm e (hk.subset he)) hp
      -- a spelling does not begin like a keyword
      · obtain ⟨-, hlower, hsigma, hdotted⟩ := toLower_of_mem_spellingHeads hd
        rw [hs, List.cons_append, lowerAfter, if_neg hsigma, if_neg hdotted, hlower,
          List.singleton_append] at h
        cases mark with
        | nil => exact List.nil_prefix
        | cons m mark =>
            refine absurd hd ?_
            rw [← (List.cons_prefix_cons.1 h).1]
            exact (hm m (by simp)).2

/-! ## Labels -/

/-- A label of a task: trimmed, not empty, without a colon or a line boundary, and not the beginning
of a line of another kind. -/
structure IsLabel (directives : List Text) (l : Text) : Prop where
  trimmed : trim l = l
  ne_nil : l ≠ []
  colon : ':' ∉ l
  within_line : ∀ c ∈ l, isLineBreak c = false
  not_title : Line.argument? "title".toList (l ++ [' ']) = none
  not_ignored : Line.ignored? directives l = none
  not_heading : Line.argument? "section".toList (l ++ [' ']) = none

variable {directives : List Text}

/-- The safe form of a label is a label. -/
theorem IsLabel.sanitize (hk : ∀ k ∈ directives, IsKeyword k.lower) {l : Text}
    (h : IsLabel directives l) : IsLabel directives (Surface.sanitize l) where
  trimmed := Surface.trim_sanitize h.trimmed
  ne_nil := Surface.sanitize_ne_nil h.ne_nil
  colon := fun hc => h.colon (Surface.mem_of_mem_sanitize (by decide) hc)
  within_line := by
    intro c hc
    cases hb : isLineBreak c with
    | false => rfl
    | true =>
        have hspelling : ¬ Surface.IsSpelling c := by
          intro hs
          have := Surface.isBlank_of_isSpelling hs
          rw [isBlank_of_isLineBreak hb] at this
          simp at this
        rw [← hb]
        exact h.within_line c (Surface.mem_of_mem_sanitize hspelling hc)
  not_title := argument?_sanitize_eq_none (by decide) h.not_title
  not_ignored := by
    have hl := h.not_ignored
    rw [ignored?_eq_none_iff] at hl ⊢
    intro k hmem hp
    refine hl k hmem
      (isPrefix_lowerAfter Surface.safeForm (t := []) ?_ (hk k hmem) (by simp) (p := []) ?_)
    · exact fun c => (Surface.safeForm_cases c).imp_right And.right
    · rw [List.append_nil, ← Surface.sanitize_eq_flatMap]
      exact hp
  not_heading := argument?_sanitize_eq_none (by decide) h.not_heading

/-- What stands before the first colon is the label, and spacing before the colon does not count. -/
theorem task?_append_cons {l b : Text} (hl : ':' ∉ l) (hb : isAllBlank b = true) (rest : Text) :
    Line.task? (l ++ (b ++ ':' :: rest)) = some (trim l, Line.parts rest) := by
  have hcut : cut? [':'] (l ++ (b ++ ':' :: rest)) = some (l ++ b, rest) := by
    rw [cut?_eq_some_iff (by simp)]
    refine ⟨by simp, nowhere_of_head rfl ?_ _⟩
    rw [List.mem_append, not_or]
    exact ⟨hl, not_mem_of_isAllBlank hb (by decide)⟩
  rw [Line.task?, hcut, Option.map_some]
  show some (trim (l ++ b), Line.parts rest) = _
  rw [trim_append_right hb]

/-- A line of a label and a colon, with spacing between them, describes a task with that label. -/
theorem classify_label (hk : ∀ k ∈ directives, IsKeyword k.lower) {l : Text}
    (h : IsLabel directives l) {b : Text} (hb : IsSpacing b) (rest : Text) :
    Line.classify directives (l ++ (b ++ ':' :: rest)) = some (.task l (Line.parts rest)) := by
  have hhead : ∀ c, (b ++ ':' :: rest).head? = some c → IsCaseless c :=
    fun c hc => isCaseless_of_head? hb hc
  have hignored : Line.ignored? directives (l ++ (b ++ ':' :: rest)) = none := by
    have hl := h.not_ignored
    rw [ignored?_eq_none_iff] at hl ⊢
    intro k hmem hp
    refine hl k hmem (isPrefix_lowerAfter (fun c => [c]) (t := b ++ ':' :: rest)
      (fun c => Or.inl rfl) (hk k hmem) hhead (p := []) ?_)
    rw [List.flatMap_singleton']
    exact hp
  have htask : Line.task? (l ++ (b ++ ':' :: rest)) = some (l, Line.parts rest) := by
    rw [task?_append_cons h.colon hb.isAllBlank, h.trimmed]
  rw [Line.classify, argument?_append_eq_none (by decide) h.not_title hhead, hignored,
    argument?_append_eq_none (by decide) h.not_heading hhead, htask]
  rfl

/-! ## Parts -/

/-- **Parts split at a comma.** -/
theorem parts_append_comma (s t : Text) :
    Line.parts (s ++ ',' :: t) = Line.parts s ++ Line.parts t := by
  unfold Line.parts
  rw [splitOn_append_cons, List.filterMap_append]

/-- A text without a comma is one part, unless it is blank. -/
theorem parts_of_not_mem {t : Text} (h : ',' ∉ t) : Line.parts t = (content? t).toList := by
  unfold Line.parts
  rw [splitOn_last h]
  show [t].filterMap content? = _
  rw [List.filterMap_cons]
  cases content? t <;> rfl

/-! ## A section with one line -/

/-- A section with a line for a task gives an entry for each. -/
theorem entries_section {α : Type} [Measure α] {l rest : Text} (h : IsLabel standardDirectives l)
    (hrest : IsContent rest) :
    (entries standardDirectives ("section S\n".toList ++ (l ++ " :".toList ++ rest)) :
        List (Entry α))
      = [.heading ['S'], .task (l ++ " :".toList ++ rest) (Task.ofParts l (Line.parts rest))] := by
  have hheading : Line.classify standardDirectives "section S".toList = some (.heading ['S']) := by
    decide +kernel
  have hsection : IsContent "section S".toList := ⟨by decide +kernel, by decide, by decide⟩
  have htask : IsContent (l ++ " :".toList ++ rest) :=
    IsContent.between ⟨h.trimmed, h.ne_nil, h.within_line⟩ hrest (by decide)
  have hline : Line.classify standardDirectives (l ++ " :".toList ++ rest)
      = some (.task l (Line.parts rest)) := by
    rw [List.append_assoc]
    exact classify_label isKeyword_standardDirectives h (b := [' ']) (by decide) rest
  have htext : "section S\n".toList ++ (l ++ " :".toList ++ rest)
      = "section S".toList ++ '\n' :: (l ++ " :".toList ++ rest) := rfl
  rw [entries, htext, contentLines_append_break (by decide),
    hsection.contentLines_eq (isPadded_self _), htask.contentLines_eq (isPadded_self _),
    List.singleton_append, List.map_cons, List.map_singleton, Entry.ofLine, hheading, Entry.ofLine,
    hline]

end Prepress.Timeline
