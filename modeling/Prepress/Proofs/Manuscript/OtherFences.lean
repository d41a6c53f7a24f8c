/-
# Fenced parts with other words

A part of a manuscript may stand between fences with a word of its own after the first one
(`fencedPart`).  Blocks are found by the beginning of that word, so it is not enough that the word
is not a tag: both passes keep the part, whatever stands around it, exactly if the word does not
begin with a tag either.

* `not_hasBlock_fencedPart` : there is no block of a tag if the word does not begin with the tag;
* `expand_fencedPart` : a part whose word begins with the tag is rendered;
* `drawn_signed_fencedPart` : both passes keep the part exactly if its word begins with no tag;
* `drawn_signed_fencedPart_longerWord` : a word that goes on after a tag is taken for the tag.
-/
import Prepress.Proofs.Manuscript.Composition

namespace Prepress.Manuscript

open Text

/-! ## Parts between fences -/

/-- A word that can stand after a fence: it is not empty and has neither blanks nor backticks. -/
structure IsInfoWord (w : Text) : Prop where
  ne_nil : w ≠ []
  not_isBlank : ∀ c ∈ w, isBlank c = false
  not_mem : '`' ∉ w

instance (w : Text) : Decidable (IsInfoWord w) :=
  decidable_of_iff (w ≠ [] ∧ (∀ c ∈ w, isBlank c = false) ∧ '`' ∉ w)
    ⟨fun ⟨h₁, h₂, h₃⟩ => ⟨h₁, h₂, h₃⟩, fun ⟨h₁, h₂, h₃⟩ => ⟨h₁, h₂, h₃⟩⟩

/-- A body between two fences on lines of their own, with a word after the first one. -/
def fencedPart (w body : Text) : Text := fence ++ w ++ '\n' :: (body ++ '\n' :: fence)

/-- What stands between the fences: the word, the body and the line ends after them. -/
def inside (w body : Text) : Text := w ++ '\n' :: (body ++ ['\n'])

theorem fencedPart_append (w body after : Text) :
    fencedPart w body ++ after = fence ++ (inside w body ++ (fence ++ after)) := by
  rw [fencedPart, inside]
  simp only [List.append_assoc, List.cons_append, List.nil_append]

variable {tag w body before after : Text}

/-- A text does not begin with a word if a backtick comes first. -/
theorem IsInfoWord.not_isPrefix (h : IsInfoWord tag) (t : Text) : ¬ tag <+: '`' :: t := by
  intro hp
  exact h.not_mem (List.mem_of_head? (head?_eq_of_isPrefix hp h.ne_nil).symm)

/-- Between the fences of a part there is no backtick. -/
theorem not_mem_inside (hw : IsInfoWord w) (hb : '`' ∉ body) : '`' ∉ inside w body := by
  rw [inside, List.mem_append, List.mem_cons, List.mem_append, List.mem_singleton]
  rintro (h | h | h | h)
  · exact hw.not_mem h
  · exact absurd h (by decide)
  · exact hb h
  · exact absurd h (by decide)

/-! ## No block of a tag -/

/-- No block begins before a fence in a text without any: its tag would begin with a backtick. -/
theorem nowhere_before_fence (htag : IsInfoWord tag) (hbefore : ¬ fence <:+: before)
    (rest : Text) : Nowhere (BeginsBlock tag) before (fence ++ rest) := by
  intro u v huv hv hblock
  obtain ⟨r, hr, -⟩ := beginsBlock_iff.1 hblock
  have hprefix : '`' :: '`' :: '`' :: tag <+: v ++ '`' :: '`' :: '`' :: rest := ⟨r, hr.symm⟩
  match v with
  | [] => exact hv rfl
  | [a] =>
      simp only [List.cons_append, List.nil_append, List.cons_prefix_cons] at hprefix
      exact htag.not_isPrefix _ hprefix.2.2.2
  | [a, b] =>
      simp only [List.cons_append, List.nil_append, List.cons_prefix_cons] at hprefix
      exact htag.not_isPrefix _ hprefix.2.2.2
  | a :: b :: c :: v =>
      -- the text would have a fence of its own
      simp only [List.cons_append, List.cons_prefix_cons] at hprefix
      obtain ⟨rfl, rfl, rfl, -⟩ := hprefix
      exact hbefore ⟨u, v, by rw [huv, List.append_assoc]; rfl⟩

/-- No block begins at the last fence of a text or after it. -/
theorem nowhere_last_fence (hafter : ¬ fence <:+: after) :
    Nowhere (BeginsBlock tag) (fence ++ after) [] := by
  intro u v huv _ hblock
  rw [List.append_nil] at hblock
  obtain ⟨r, rfl, hr⟩ := beginsBlock_iff.1 hblock
  -- what follows the tag lies behind the last fence, so there is no fence in it
  have hsuffix : r <:+ fence ++ after := ⟨u ++ (fence ++ tag), by rw [huv, List.append_assoc]⟩
  have hlength : r.length ≤ after.length := by
    have hlen := congrArg List.length huv
    simp only [List.length_append] at hlen
    omega
  have hr' : r <:+ after :=
    List.suffix_of_suffix_length_le hsuffix (List.suffix_append fence after) hlength
  exact hafter (hr.trans hr'.isInfix)

/-- A part whose word does not begin with a tag brings no block of the tag about, neither by itself
nor together with the text around it. -/
theorem not_hasBlock_fencedPart (htag : IsInfoWord tag) (hw : IsInfoWord w) (hb : '`' ∉ body)
    (hbefore : ¬ fence <:+: before) (hafter : ¬ fence <:+: after) (hword : ¬ tag <+: w) :
    ¬ HasBlock tag (before ++ (fencedPart w body ++ after)) := by
  have hline : '\n' ∉ tag := by
    intro h
    exact absurd (htag.not_isBlank _ h) (by decide)
  rw [not_hasBlock_iff, fencedPart_append, nowhere_append, nowhere_append, nowhere_append]
  simp only [List.append_nil]
  refine ⟨nowhere_before_fence htag hbefore _, nowhere_fence ?_, ?_, nowhere_last_fence hafter⟩
  · intro n hn hp
    rw [inside, List.append_assoc, List.cons_append] at hp
    cases n with
    | zero => exact hword (isPrefix_of_isPrefix_append_cons hline hp)
    | succ n =>
        -- the word would begin with a backtick
        obtain ⟨c, w', rfl⟩ := List.exists_cons_of_ne_nil hw.ne_nil
        have hhead := head?_eq_of_isPrefix hp (List.cons_ne_nil '`' _)
        exact hw.not_mem (List.mem_of_head? hhead)
  · exact (nowhere_of_head rfl (not_mem_inside hw hb) _).imp fun _ hs => hs.fence_isPrefix

/-! ## A block of a tag -/

section Expand

variable {ε : Type} {failure : Text} {render : Text → Except ε Text}

/-- A part whose word goes on after a tag is a block of the tag, and the rest of the word belongs to
its body. -/
theorem block?_fencedPart (hw : IsInfoWord (tag ++ w)) (hne : w ≠ []) (hb : '`' ∉ body) :
    block? tag (fencedPart (tag ++ w) body ++ after) = some (inside w body, after) := by
  have hw' : IsInfoWord w :=
    ⟨hne, fun c hc => hw.not_isBlank c (List.mem_append_right _ hc),
      fun hc => hw.not_mem (List.mem_append_right _ hc)⟩
  have htext : fencedPart (tag ++ w) body ++ after
      = fence ++ tag ++ (inside w body ++ (fence ++ after)) := by
    rw [fencedPart_append, inside, inside]
    simp only [List.append_assoc]
  have htrim : trimStart (inside w body ++ (fence ++ after))
      = inside w body ++ (fence ++ after) := by
    obtain ⟨c, w', rfl⟩ := List.exists_cons_of_ne_nil hne
    exact List.dropWhile_cons_of_neg (by rw [hw'.not_isBlank c (by simp)]; simp)
  rw [htext, block?, after?_append, Option.bind_some, htrim, cut?_eq_some_iff (by decide)]
  exact ⟨by rw [List.append_assoc], nowhere_of_head rfl (not_mem_inside hw' hb) _⟩

/-- A part whose word goes on after a tag is rendered, and the text around it is kept. -/
theorem expand_fencedPart (hr : IsMarkup failure render) (htag : IsInfoWord tag)
    (hw : IsInfoWord w) (hne : w ≠ tag) (hb : '`' ∉ body) (hbefore : ¬ fence <:+: before)
    (hafter : ¬ fence <:+: after) (hword : tag <+: w) :
    ∃ s, expand tag failure render (before ++ (fencedPart w body ++ after))
      = before ++ '<' :: (s ++ after) := by
  obtain ⟨x, rfl⟩ := hword
  have hx : x ≠ [] := by
    rintro rfl
    exact hne (List.append_nil tag)
  have hblock : block? tag (fencedPart (tag ++ x) body ++ after) = some (inside x body, after) :=
    block?_fencedPart hw hx hb
  have hkept : expand tag failure render after = after :=
    expand_eq_self (not_hasBlock_of_occursIn (occursIn_eq_false_iff.2 hafter))
  have hnone : Nowhere (BeginsBlock tag) before (fencedPart (tag ++ x) body ++ after) := by
    rw [fencedPart_append]
    exact nowhere_before_fence htag hbefore _
  rw [expand_append_of_nowhere hnone, expand_of_block? hblock, hkept]
  rcases hr (inside x body) with ⟨hblank, -⟩ | hhead
  · -- the body begins with what the word has besides the tag
    obtain ⟨c, x', rfl⟩ := List.exists_cons_of_ne_nil hx
    have hc : isBlank c = true := hblank c (by simp [inside])
    rw [hw.not_isBlank c (by simp)] at hc
    cases hc
  · obtain ⟨s, hs⟩ := List.head?_eq_some_iff.1 hhead
    exact ⟨s, by rw [hs, List.cons_append]⟩

end Expand

/-! ## Both passes -/

variable {α : Type}

/-- What takes the place of a signature block begins with a tag, unless the block is blank. -/
theorem isMarkup_table (o : Options α) :
    @IsMarkup Empty o.signatureFailure fun body => .ok (Signature.render o.signatures body) := by
  intro body
  show (Within (isBlank · = true) body ∧ Signature.render o.signatures body = []) ∨
    (Signature.render o.signatures body).head? = some '<'
  rw [Signature.render]
  split
  · next h => exact Or.inl ⟨List.all_eq_true.1 h, rfl⟩
  · right
    rw [Signature.sectionsHtml, List.append_assoc, List.singleton_append,
      join_cons _ _ (by simp)]
    rfl

variable [Measure α]

theorem isInfoWord_signaturesTag : IsInfoWord signaturesTag := by decide

theorem isInfoWord_timelineTag : IsInfoWord timelineTag := by decide

/-- **Other fences are kept.**  A part between fences whose word begins with no tag is kept by both
passes, whatever stands around it.  Under any other word that is not a tag itself it is rendered, if
the messages of the options begin with a tag. -/
theorem drawn_signed_fencedPart (o : Options α) (hw : IsInfoWord w) (hb : '`' ∉ body)
    (hbefore : ¬ fence <:+: before) (hafter : ¬ fence <:+: after) (hs : w ≠ signaturesTag)
    (ht : w ≠ timelineTag) :
    let t := before ++ (fencedPart w body ++ after)
    (¬ signaturesTag <+: w → ¬ timelineTag <+: w → signed o t = t ∧ drawn o (signed o t) = t) ∧
      (o.timeline.emptyMessage.head? = some '<' → o.timelineFailure.head? = some '<' →
        drawn o (signed o t) = t → ¬ signaturesTag <+: w ∧ ¬ timelineTag <+: w) := by
  intro t
  have hsigned : ¬ signaturesTag <+: w → signed o t = t := fun h =>
    expand_eq_self (not_hasBlock_fencedPart isInfoWord_signaturesTag hw hb hbefore hafter h)
  -- a text that has a bracket in the place of the first fence is another text
  have hother : ∀ s, before ++ '<' :: s ≠ t := by
    intro s he
    have hhead : some '<' = some '`' := congrArg List.head? (List.append_cancel_left he)
    exact absurd hhead (by decide)
  constructor
  · intro hsign htime
    refine ⟨hsigned hsign, ?_⟩
    rw [hsigned hsign]
    exact expand_eq_self (not_hasBlock_fencedPart isInfoWord_timelineTag hw hb hbefore hafter htime)
  · intro he hf hkept
    have hsign : ¬ signaturesTag <+: w := by
      intro h
      obtain ⟨s, hrendered⟩ := expand_fencedPart (isMarkup_table o) isInfoWord_signaturesTag hw hs
        hb hbefore hafter h
      -- the second pass keeps the bracket that the table begins with
      have hnone := (nowhere_append_singleton (c := '<') (by decide) hbefore (s ++ after)).imp
        fun _ (h : BeginsBlock timelineTag _) => h.fence_isPrefix
      have hsplit : before ++ '<' :: (s ++ after) = before ++ ['<'] ++ (s ++ after) := by
        rw [List.append_assoc, List.singleton_append]
      rw [signed, hrendered, hsplit, drawn, expand_append_of_nowhere hnone, List.append_assoc,
        List.singleton_append] at hkept
      exact hother _ hkept
    refine ⟨hsign, ?_⟩
    intro h
    obtain ⟨s, hrendered⟩ := expand_fencedPart (isMarkup_drawing he hf) isInfoWord_timelineTag hw ht
      hb hbefore hafter h
    rw [hsigned hsign, drawn, hrendered] at hkept
    exact hother _ hkept

/-- A part with another word, between backticks that lengthen its fences, with a tag behind it. -/
theorem drawn_signed_fencedPart_python :
    let o : Options Rat := Options.standard
    let t := "a ``".toList ++ (fencedPart "python".toList "print(1)".toList ++ "`timeline\n".toList)
    (IsInfoWord "python".toList ∧ '`' ∉ "print(1)".toList ∧ ¬ fence <:+: "a ``".toList ∧
        ¬ fence <:+: "`timeline\n".toList ∧ "python".toList ≠ signaturesTag ∧
        "python".toList ≠ timelineTag) ∧
      (¬ signaturesTag <+: "python".toList → ¬ timelineTag <+: "python".toList →
        signed o t = t ∧ drawn o (signed o t) = t) ∧
      (o.timeline.emptyMessage.head? = some '<' → o.timelineFailure.head? = some '<' →
        drawn o (signed o t) = t →
          ¬ signaturesTag <+: "python".toList ∧ ¬ timelineTag <+: "python".toList) := by
  intro o t
  have hword : IsInfoWord "python".toList := by decide
  have hbody : '`' ∉ "print(1)".toList := by decide
  have hbefore : ¬ fence <:+: "a ``".toList := occursIn_eq_false_iff.1 (by decide)
  have hafter : ¬ fence <:+: "`timeline\n".toList := occursIn_eq_false_iff.1 (by decide)
  have hsign : "python".toList ≠ signaturesTag := by decide
  have htime : "python".toList ≠ timelineTag := by decide
  exact ⟨⟨hword, hbody, hbefore, hafter, hsign, htime⟩,
    drawn_signed_fencedPart o hword hbody hbefore hafter hsign htime⟩

/-- A part whose word is neither tag, but begins with one, is taken for a block of it. -/
theorem drawn_signed_fencedPart_longerWord :
    let o : Options Rat := Options.standard
    let t := fencedPart "timelines".toList "See below.".toList
    IsInfoWord "timelines".toList ∧ '`' ∉ "See below.".toList ∧
      "timelines".toList ≠ signaturesTag ∧ "timelines".toList ≠ timelineTag ∧
      signed o t = t ∧ drawn o (signed o t) = "<pre>No tasks parsed in timeline</pre>".toList ∧
      drawn o (signed o t) ≠ t := by
  intro o t
  have hsigned : signed o t = t := by decide +kernel
  have hdrawn : drawn o t = "<pre>No tasks parsed in timeline</pre>".toList := by decide +kernel
  refine ⟨by decide, by decide, by decide, by decide, hsigned, ?_, ?_⟩
  · rw [hsigned, hdrawn]
  · rw [hsigned, hdrawn]
    decide

end Prepress.Manuscript
