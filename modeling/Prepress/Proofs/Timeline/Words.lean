/-
# Words in the drawing of a block

A drawing whose labels are not cut shows the texts of its block as they are.  So a word in brackets
is found in what takes the place of a block only if the block has it (`infix_of_infix_render`).
-/
import Prepress.Proofs.Timeline.Outline
import Prepress.Proofs.Timeline.Svg

namespace Prepress.Timeline

open Text Markup

variable {α : Type}

/-- The marks of a document show its texts. -/
theorem Document.mem_texts_of_mem_marks {d : Document α} {m : Mark} (h : m ∈ d.marks)
    (hm : m.text ≠ []) : m.text ∈ d.texts := by
  rcases List.mem_append.1 h with h | h
  · refine List.mem_append_left _ (Option.mem_toList.2 ?_)
    match ht : d.title with
    | none => rw [ht] at h; exact absurd h List.not_mem_nil
    | some [] => rw [ht] at h; exact absurd h List.not_mem_nil
    | some (c :: t) =>
        rw [ht] at h
        rw [List.mem_singleton.1 h]
        rfl
  · refine List.mem_append_right _ ?_
    obtain ⟨s, hs, h⟩ := List.mem_flatMap.1 h
    refine List.mem_flatMap.2 ⟨s, hs, ?_⟩
    rcases List.mem_cons.1 h with rfl | h
    · exact List.mem_cons_self
    · obtain ⟨t, ht, h⟩ := List.mem_flatMap.1 h
      rw [List.mem_cons, List.mem_singleton] at h
      rcases h with rfl | rfl
      · exact List.mem_cons_of_mem _ (List.mem_map_of_mem ht)
      · -- bars and diamonds have no text
        refine absurd ?_ hm
        rw [Task.mark]
        split <;> rfl

variable [Measure α]

/-- What takes the place of a block has no word in brackets that is neither in the block nor in the
message for blocks without a task. -/
theorem infix_of_infix_render {word : Text} (hw : IsBracketed word) {options : Options α}
    (hl : options.truncateLabels = false) (hmessage : ¬ word <:+: options.emptyMessage)
    {body text : Text} (h : (render options body).result = .ok text) (hi : word <:+: text) :
    word <:+: body := by
  rcases render_cases h with ⟨-, rfl⟩ | ⟨-, rfl | ⟨drawing, hd, rfl⟩⟩
  · exact absurd (List.infix_nil.1 hi) hw.ne_nil
  · exact absurd hi hmessage
  · obtain ⟨m, hm, hi⟩ := drawing.exists_mark_of_infix_text hw hi
    rw [Drawing.marks_of? hl hd] at hm
    have hne : m.text ≠ [] := by
      intro he
      rw [he] at hi
      exact hw.ne_nil (List.infix_nil.1 hi)
    exact hi.trans (Document.isInfix_of_mem_texts (Document.mem_texts_of_mem_marks hm hne))

/-- What takes the place of a block that is not blank begins and ends with signs of markup, if the
message for blocks without a task does. -/
theorem isEnclosed_of_render {word : Text} (hw : IsBracketed word) {options : Options α}
    (hmessage : IsEnclosed word options.emptyMessage) {body text : Text}
    (hb : isAllBlank body = false) (h : (render options body).result = .ok text) :
    IsEnclosed word text := by
  rcases render_cases h with ⟨hblank, -⟩ | ⟨-, rfl | ⟨drawing, -, rfl⟩⟩
  · rw [hblank] at hb
    simp at hb
  · exact hmessage
  · obtain ⟨r, hr⟩ := List.head?_eq_some_iff.1 drawing.head?_text
    exact ⟨⟨'<', r, hr, hw.not_mem (by decide)⟩, _, '\n', rfl, hw.not_mem (by decide)⟩

end Prepress.Timeline
