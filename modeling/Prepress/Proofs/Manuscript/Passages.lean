/-
# Passages

A manuscript with its blocks on lines of their own is a row of passages: a block, and the text up
to the next one (`Passage`).  Blocks of the two kinds are rendered in two passes, signatures first,
and the second pass reads what the first one has written.

* `signed_source` : the first pass renders the signature blocks and keeps everything else;
* `drawn_halfway` : the second pass renders the timeline blocks and keeps everything else, as long
  as no timeline block begins in a table that the first pass has written (`TablesAreInert`);
* `tablesAreInert_of_drawn_halfway` : where one begins, the second pass changes the table.
-/
import Prepress.Manuscript.Preparation
import Prepress.Proofs.Manuscript.Fence
import Prepress.Proofs.Text.Newlines

namespace Prepress.Manuscript

open Text

/-! ## Manuscripts as rows of passages -/

/-- The two kinds of blocks. -/
inductive BlockKind where
  | signatures
  | timeline
deriving DecidableEq

/-- The tag of a kind. -/
def BlockKind.tag : BlockKind → Text
  | .signatures => signaturesTag
  | .timeline => timelineTag

/-- A block on lines of its own, and the text after it. -/
structure Passage where
  kind : BlockKind
  body : Text
  after : Text
deriving DecidableEq

/-- The block of a passage as it is written. -/
def Passage.source (p : Passage) : Text :=
  fence ++ p.kind.tag ++ '\n' :: (p.body ++ '\n' :: fence)

/-- The text that a renderer is given for a passage. -/
def Passage.content (p : Passage) : Text := trimStart (p.body ++ ['\n'])

/-- Passages in a row, each block in a given form. -/
def layout (form : Passage → Text) (ps : List Passage) : Text :=
  ps.flatMap fun p => form p ++ p.after

theorem layout_cons (form : Passage → Text) (p : Passage) (ps : List Passage) :
    layout form (p :: ps) = form p ++ (p.after ++ layout form ps) := by
  rw [layout, List.flatMap_cons, List.append_assoc]
  rfl

/-- There is no fence in a text, and if passages follow, the first of them begins a line. -/
def IsLead (t : Text) (ps : List Passage) : Prop :=
  ¬ fence <:+: t ∧ (ps ≠ [] → AtLineStart t)

/-- Every fence of the passages stands alone on its line and belongs to a block. -/
def WellFenced : List Passage → Prop
  | [] => True
  | p :: ps => ¬ fence <:+: p.body ∧ AtLineEnd p.after ∧ IsLead p.after ps ∧ WellFenced ps

/-! ## One pass -/

section Pass

variable {ε : Type} {tag failure : Text} {render : Text → Except ε Text}

/-- No block begins in a text that leads over to passages, or to the end. -/
theorem nowhere_of_isLead (form : Passage → Text) {t : Text} {ps : List Passage}
    (h : IsLead t ps) : Nowhere (BeginsBlock tag) t (layout form ps) := by
  cases ps with
  | nil => exact (nowhere_of_not_isInfix h.1).imp fun _ hs => hs.fence_isPrefix
  | cons p ps =>
      cases hl : t.getLast? with
      | none =>
          rw [List.getLast?_eq_none_iff.1 hl]
          exact nowhere_nil _ _
      | some c =>
          -- the line feed at the end keeps a fence from reaching over
          have hc := h.2 (by simp) c hl
          obtain ⟨a, rfl⟩ := List.getLast?_eq_some_iff.1 hl
          rw [hc] at h ⊢
          have ha : ¬ fence <:+: a := fun hi => h.1 (hi.trans (List.prefix_append a _).isInfix)
          exact (nowhere_append_singleton (by decide) ha _).imp fun _ hs => hs.fence_isPrefix

theorem expand_lead {form : Passage → Text} {t : Text} {ps : List Passage} (h : IsLead t ps) :
    expand tag failure render (t ++ layout form ps)
      = t ++ expand tag failure render (layout form ps) :=
  expand_append_of_nowhere (nowhere_of_isLead form h)

/-- The blocks of the pass's own tag are rendered. -/
theorem expand_source {p : Passage} (hp : p.kind.tag = tag) (hb : ¬ fence <:+: p.body)
    (rest : Text) :
    expand tag failure render (p.source ++ rest)
      = replacement failure render p.content ++ expand tag failure render rest := by
  have hsource : p.source ++ rest
      = fence ++ tag ++ '\n' :: (p.body ++ '\n' :: (fence ++ rest)) := by
    rw [Passage.source, hp]
    simp only [List.append_assoc, List.cons_append]
  rw [hsource, expand_block hb]
  rfl

/-- No block begins within a fence, unless its tag follows, perhaps after more of the fence. -/
theorem nowhere_fence {rest : Text} (h : ∀ n < 3, ¬ fence.take n ++ tag <+: rest) :
    Nowhere (BeginsBlock tag) fence rest := by
  have hsplit : ∀ n < 3, fence = fence.drop n ++ fence.take n := by decide
  have hbegin : ∀ n < 3, ¬ BeginsBlock tag (fence.drop n ++ rest) := by
    intro n hn hb
    obtain ⟨r, hr, -⟩ := beginsBlock_iff.1 hb
    have hsame : fence.drop n ++ rest = fence.drop n ++ (fence.take n ++ tag ++ r) := by
      rw [hr, ← List.append_assoc, ← List.append_assoc, ← hsplit n hn]
    exact h n hn ⟨r, (List.append_cancel_left hsame).symm⟩
  exact nowhere_cons.2 ⟨hbegin 0 (by omega), nowhere_cons.2 ⟨hbegin 1 (by omega),
    nowhere_cons.2 ⟨hbegin 2 (by omega), nowhere_nil _ _⟩⟩⟩

end Pass

/-! ## The first pass -/

/-- What follows a block does not complete the beginning of a signature block. -/
theorem not_prefix_source {t : Text} (ht : AtLineEnd t) (ps : List Passage) :
    ∀ n < 3, ¬ fence.take n ++ signaturesTag <+: t ++ layout Passage.source ps := by
  have hmark : ∀ n < 3, 3 ≤ (fence.take n ++ signaturesTag).length ∧
      (fence.take n ++ signaturesTag).take 3 ≠ fence ∧
        (fence.take n ++ signaturesTag).head? ≠ some '\n' := by
    decide
  intro n hn
  obtain ⟨hlen, hfence, hline⟩ := hmark n hn
  -- of the mark, only its length, its beginning and its first character matter from here on
  generalize fence.take n ++ signaturesTag = mark at hlen hfence hline
  intro hp
  have hhead := head?_eq_of_isPrefix hp (List.ne_nil_of_length_pos (by omega))
  obtain ⟨r, hr⟩ := hp
  cases t with
  | cons c t =>
      refine hline ?_
      rw [← hhead, ← ht c rfl]
      rfl
  | nil =>
      cases ps with
      | nil =>
          rw [List.append_eq_nil_iff.1 hr |>.1] at hlen
          simp at hlen
      | cons q qs =>
          refine hfence ?_
          have htake := congrArg (List.take 3) hr
          rw [List.take_append_of_le_length hlen] at htake
          rw [htake, List.nil_append, layout_cons, Passage.source]
          rfl

/-- No signature block begins in a timeline block. -/
theorem nowhere_timeline_source {p : Passage} (hp : p.kind = .timeline)
    (hb : ¬ fence <:+: p.body) {rest : Text}
    (hrest : ∀ n < 3, ¬ fence.take n ++ signaturesTag <+: rest) :
    Nowhere (BeginsBlock signaturesTag) p.source rest := by
  have hline : ∀ a s, ¬ fence <:+: a → Nowhere (BeginsBlock signaturesTag) (a ++ ['\n']) s :=
    fun a s ha => (nowhere_append_singleton (by decide) ha s).imp fun _ hs => hs.fence_isPrefix
  have hsource : p.source
      = fence ++ ((timelineTag ++ ['\n']) ++ ((p.body ++ ['\n']) ++ fence)) := by
    rw [Passage.source, hp]
    show fence ++ timelineTag ++ '\n' :: (p.body ++ '\n' :: fence) = _
    simp only [List.append_assoc, List.singleton_append]
  have htag : ¬ fence <:+: timelineTag := occursIn_eq_false_iff.1 (by decide)
  rw [hsource]
  refine nowhere_append.2 ⟨nowhere_fence ?_, nowhere_append.2 ⟨hline _ _ htag,
    nowhere_append.2 ⟨hline _ _ hb, nowhere_fence hrest⟩⟩⟩
  -- the tags differ in their first letters
  have hhead : ∀ n < 3, fence.take n ++ signaturesTag ≠ [] ∧
      (fence.take n ++ signaturesTag).head? ≠ some 't' := by
    decide
  intro n hn hpre
  exact (hhead n hn).2 (head?_eq_of_isPrefix hpre (hhead n hn).1).symm

variable {α : Type}

/-- The form of the blocks after the first pass. -/
def Passage.halfway (o : Options α) (p : Passage) : Text :=
  match p.kind with
  | .signatures => Signature.render o.signatures p.content
  | .timeline => p.source

/-- The first pass renders the signature blocks and keeps everything else. -/
theorem signed_source (o : Options α) {lead : Text} {ps : List Passage} (hl : IsLead lead ps)
    (hw : WellFenced ps) :
    signed o (lead ++ layout Passage.source ps) = lead ++ layout (Passage.halfway o) ps := by
  -- the text after a block is a lead again, now of the passages that are left
  rw [signed, expand_lead hl]
  congr 1
  induction ps generalizing lead with
  | nil => exact expand_nil
  | cons p ps ih =>
      obtain ⟨hbody, hafter, hlead, hrest⟩ := hw
      rw [layout_cons, layout_cons, Passage.halfway]
      cases hk : p.kind with
      | signatures =>
          rw [expand_source (by rw [hk]; rfl) hbody, expand_lead hlead, ih hlead hrest]
          rfl
      | timeline =>
          have hnone := nowhere_timeline_source hk hbody (not_prefix_source hafter ps)
          rw [expand_append_of_nowhere hnone, expand_lead hlead, ih hlead hrest]

/-! ## The second pass -/

variable [Measure α]

/-- What the rendering of a timeline block puts in its place. -/
def drawing (o : Options α) (body : Text) : Text :=
  replacement o.timelineFailure (fun body => (Timeline.render o.timeline body).result) body

/-- The form of the blocks after both passes. -/
def Passage.result (o : Options α) (p : Passage) : Text :=
  match p.kind with
  | .signatures => Signature.render o.signatures p.content
  | .timeline => drawing o p.content

/-- No timeline block begins in a table that the first pass has written. -/
def TablesAreInert (o : Options α) : List Passage → Prop
  | [] => True
  | p :: ps =>
    (p.kind = .signatures → Nowhere (BeginsBlock timelineTag)
      (Signature.render o.signatures p.content) (p.after ++ layout (Passage.halfway o) ps)) ∧
      TablesAreInert o ps

/-- The second pass renders the timeline blocks and keeps everything else, if the tables of the
first pass are inert. -/
theorem drawn_halfway (o : Options α) {lead : Text} {ps : List Passage} (hl : IsLead lead ps)
    (hw : WellFenced ps) (hi : TablesAreInert o ps) :
    drawn o (lead ++ layout (Passage.halfway o) ps) = lead ++ layout (Passage.result o) ps := by
  rw [drawn, expand_lead hl]
  congr 1
  induction ps generalizing lead with
  | nil => exact expand_nil
  | cons p ps ih =>
      obtain ⟨hbody, -, hlead, hrest⟩ := hw
      rw [layout_cons, layout_cons, Passage.halfway, Passage.result]
      cases hk : p.kind with
      | signatures =>
          rw [expand_append_of_nowhere (hi.1 hk), expand_lead hlead, ih hlead hrest hi.2]
      | timeline =>
          show expand timelineTag o.timelineFailure _ (p.source ++ _) = _
          rw [expand_source (by rw [hk]; rfl) hbody, expand_lead hlead, ih hlead hrest hi.2]
          rfl

/-! ## Blocks that begin in a table -/

/-- The number of characters before the first opening bracket. -/
def bracketFree (t : Text) : Nat := (t.takeWhile (· != '<')).length

theorem bracketFree_append_of_mem {a : Text} (h : '<' ∈ a) (b : Text) :
    bracketFree (a ++ b) = bracketFree a := by
  obtain ⟨u, v, rfl, hu⟩ := List.eq_append_cons_of_mem h
  have hall : ∀ c ∈ u, (c != '<') = true := by
    intro c hc
    rw [bne_iff_ne]
    exact fun he => hu (by rw [← he]; exact hc)
  have hcut : ∀ s, bracketFree (u ++ '<' :: s) = u.length := by
    intro s
    rw [bracketFree, List.takeWhile_append_of_pos hall, List.takeWhile_cons_of_neg (by simp),
      List.append_nil]
  rw [List.append_assoc, List.cons_append, hcut, hcut]

theorem bracketFree_append_of_not_mem {a : Text} (h : '<' ∉ a) (b : Text) :
    bracketFree (a ++ b) = a.length + bracketFree b := by
  have hall : ∀ c ∈ a, (c != '<') = true := by
    intro c hc
    rw [bne_iff_ne]
    exact fun he => h (by rw [← he]; exact hc)
  rw [bracketFree, List.takeWhile_append_of_pos hall, List.length_append]
  rfl

/-- What is rendered begins with a tag, unless it is empty and the block was blank. -/
def IsMarkup {ε : Type} (failure : Text) (render : Text → Except ε Text) : Prop :=
  ∀ body, (Within (isBlank · = true) body ∧ replacement failure render body = []) ∨
    (replacement failure render body).head? = some '<'

section Markup

variable {ε : Type} {failure : Text} {render : Text → Except ε Text}

/-- A blank block keeps brackets away from what follows it. -/
theorem bracketFree_of_block? {t body rest : Text} (h : block? timelineTag t = some (body, rest))
    (hb : Within (isBlank · = true) body) : bracketFree rest < bracketFree t := by
  have hblank : ∀ s, Within (isBlank · = true) s → '<' ∉ s := by
    intro s hs hm
    exact absurd (hs '<' hm) (by decide)
  obtain ⟨blanks, hblanks, rfl⟩ := eq_of_block? h
  have hnone : '<' ∉ fence ++ timelineTag ++ (blanks ++ body ++ fence) := by
    simp only [List.mem_append, not_or]
    exact ⟨by decide, ⟨hblank _ hblanks, hblank _ hb⟩, by decide⟩
  rw [bracketFree_append_of_not_mem hnone]
  have hlen : 0 < (fence ++ timelineTag).length := by decide
  rw [List.length_append]
  omega

/-- Rendering does not move the first bracket to the right. -/
theorem bracketFree_expand_le (hr : IsMarkup failure render) (t : Text) :
    bracketFree (expand timelineTag failure render t) ≤ bracketFree t := by
  fun_induction pieces timelineTag t with
  | case1 => exact Nat.le_of_eq (congrArg bracketFree expand_nil)
  | case2 c t body rest hb ih =>
      rw [expand_of_block? hb]
      rcases hr body with ⟨hblank, he⟩ | he
      · have hlt := bracketFree_of_block? hb hblank
        rw [he, List.nil_append]
        omega
      · obtain ⟨s, hs⟩ := List.head?_eq_some_iff.1 he
        rw [hs]
        exact Nat.zero_le _
  | case3 c t hb ih =>
      have hnone : ¬ BeginsBlock timelineTag (c :: t) := by
        rw [BeginsBlock, hb]
        simp
      rw [expand_cons hnone]
      show bracketFree ([c] ++ expand timelineTag failure render t) ≤ bracketFree ([c] ++ t)
      -- the first bracket is this character, or it lies in what follows
      by_cases hc : '<' ∈ [c]
      · refine Nat.le_of_eq ?_
        rw [bracketFree_append_of_mem hc, bracketFree_append_of_mem hc]
      · rw [bracketFree_append_of_not_mem hc, bracketFree_append_of_not_mem hc]
        omega

/-- A block that begins in a text with a bracket in it does not leave the text as it is. -/
theorem expand_ne (hr : IsMarkup failure render) {v rest : Text} (hv : '<' ∈ v)
    (hb : BeginsBlock timelineTag (v ++ rest)) (t : Text) :
    expand timelineTag failure render (v ++ rest) ≠ v ++ t := by
  obtain ⟨⟨body, after⟩, hblock⟩ := Option.isSome_iff_exists.1 hb
  intro he
  rw [expand_of_block? hblock] at he
  have hfree := congrArg bracketFree he
  rw [bracketFree_append_of_mem hv] at hfree
  rcases hr body with ⟨hblank, hempty⟩ | hbracket
  · have h1 := bracketFree_of_block? hblock hblank
    have h2 := bracketFree_expand_le hr after
    rw [bracketFree_append_of_mem hv] at h1
    rw [hempty, List.nil_append] at hfree
    omega
  · -- the text begins with a fence, what is rendered with a bracket
    obtain ⟨s, hs⟩ := List.head?_eq_some_iff.1 hbracket
    have hhead := head?_eq_of_isPrefix hb.fence_isPrefix (by decide)
    cases v with
    | nil => simp at hv
    | cons c v =>
        rw [hs] at he
        rw [List.cons_append, List.cons_append, List.cons.injEq] at he
        rw [List.cons_append, List.head?_cons, ← he.1] at hhead
        revert hhead
        decide

/-- In a text that is left as it is, and has a bracket after every fence in it, no block begins. -/
theorem nowhere_of_expand_eq (hr : IsMarkup failure render) {a rest t : Text}
    (ha : ∀ v, v <:+ a → v ≠ [] → fence <+: v ++ rest → '<' ∈ v)
    (h : expand timelineTag failure render (a ++ rest) = a ++ t) :
    Nowhere (BeginsBlock timelineTag) a rest := by
  induction a with
  | nil => exact nowhere_nil _ _
  | cons c a ih =>
      -- a block would be the first thing that is rendered, and the text would change there
      have hnone : ¬ BeginsBlock timelineTag (c :: (a ++ rest)) := by
        intro hb
        have hmem := ha (c :: a) List.suffix_rfl (by simp) hb.fence_isPrefix
        exact expand_ne hr hmem hb t h
      rw [List.cons_append, expand_cons hnone, List.cons_append, List.cons.injEq] at h
      refine nowhere_cons.2 ⟨hnone, ih ?_ h.2⟩
      exact fun v hv => ha v (hv.trans (List.suffix_cons c a))

end Markup

/-- Every fence that begins in a table has a bracket of the table after it. -/
theorem mem_of_suffix_render (options : Signature.Options) (text rest : Text) :
    ∀ v, v <:+ Signature.render options text → v ≠ [] → fence <+: v ++ rest → '<' ∈ v := by
  intro v hv hne hf
  rw [Signature.render] at hv
  split at hv
  · exact absurd (List.suffix_nil.1 hv) hne
  · rw [Signature.sectionsHtml, join_append (by simp), List.flatMap_append,
      List.flatMap_singleton] at hv
    obtain ⟨u, hu⟩ := hv
    rcases List.append_eq_append_iff.1 hu with ⟨s, -, hs⟩ | ⟨s, -, hs⟩
    · rw [hs]
      simp
    · -- no fence begins in the last tag
      have hhead := head?_eq_of_isPrefix hf (by decide)
      cases v with
      | nil => exact absurd rfl hne
      | cons c v =>
          have hc : c ∈ "</div>".toList ++ ['\n'] := by
            rw [hs]
            simp
          have hnone : ∀ d ∈ "</div>".toList ++ ['\n'], fence.head? ≠ some d := by decide
          exact absurd hhead.symm (hnone c hc)

/-- Where a timeline block begins in a table of the first pass, the second pass changes the
table. -/
theorem tablesAreInert_of_drawn_halfway {o : Options α}
    (hr : IsMarkup o.timelineFailure fun body => (Timeline.render o.timeline body).result)
    {lead : Text} {ps : List Passage} (hl : IsLead lead ps) (hw : WellFenced ps)
    (h : drawn o (lead ++ layout (Passage.halfway o) ps) = lead ++ layout (Passage.result o) ps) :
    TablesAreInert o ps := by
  rw [drawn, expand_lead hl] at h
  replace h := List.append_cancel_left h
  induction ps generalizing lead with
  | nil => trivial
  | cons p ps ih =>
      obtain ⟨hbody, -, hlead, hrest⟩ := hw
      rw [layout_cons, layout_cons, Passage.halfway, Passage.result] at h
      cases hk : p.kind with
      | signatures =>
          rw [hk] at h
          -- the table is kept as it is, so no block begins in it
          have hnone := nowhere_of_expand_eq hr
            (mem_of_suffix_render o.signatures p.content _) h
          rw [expand_append_of_nowhere hnone, expand_lead hlead] at h
          have htail := List.append_cancel_left (List.append_cancel_left h)
          exact ⟨fun _ => hnone, ih hlead hrest htail⟩
      | timeline =>
          rw [hk] at h
          dsimp only at h
          rw [expand_source (by rw [hk]; rfl) hbody, expand_lead hlead] at h
          refine ⟨fun hs => absurd (hk.symm.trans hs) (by simp), ih hlead hrest ?_⟩
          exact List.append_cancel_left (List.append_cancel_left h)

end Prepress.Manuscript
