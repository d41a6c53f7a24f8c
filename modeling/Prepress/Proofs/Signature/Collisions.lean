/-
# Fields of one name

Fields of a block whose names are the same are told by warnings.  The names are gathered from the
sections of the block, while a reader finds them as the names of the inputs of its markup:

* `mem_collisions`, `pairwise_collisions` : names that occur more than once, each of them once and
  in the order of their first occurrences;
* `filter_isOnDuplicate_renderNotes` : no other note on a block is worded like these warnings;
* `duplicateNotes_render` : the warnings name the names that more than one input has.
-/
import Mathlib.Data.List.Basic
import Mathlib.Data.List.Nodup
import Prepress.Proofs.Signature.Inputs

namespace Prepress

open Text

/-! ## First occurrences -/

namespace Field

variable {names : List Text}

theorem mem_firstOccurrences {n : Text} : n ∈ firstOccurrences names ↔ n ∈ names := by
  induction names with
  | nil => rfl
  | cons m names ih =>
      rw [firstOccurrences, List.mem_cons, List.mem_cons, List.mem_filter, ih, bne_iff_ne]
      tauto

/-- The first occurrences stand in the order of the names themselves. -/
theorem pairwise_firstOccurrences (names : List Text) :
    (firstOccurrences names).Pairwise fun a b => names.idxOf a < names.idxOf b := by
  induction names with
  | nil => exact List.Pairwise.nil
  | cons n names ih =>
      rw [firstOccurrences, List.pairwise_cons]
      constructor
      · intro b hb
        have hne : n ≠ b := (bne_iff_ne.1 (List.mem_filter.1 hb).2).symm
        rw [List.idxOf_cons_self, List.idxOf_cons_ne _ hne]
        exact Nat.succ_pos _
      · -- behind the first name all places are one further on
        rw [List.pairwise_filter]
        refine ih.imp ?_
        intro a b hab ha hb
        rw [List.idxOf_cons_ne _ (bne_iff_ne.1 ha).symm,
          List.idxOf_cons_ne _ (bne_iff_ne.1 hb).symm]
        exact Nat.succ_lt_succ hab

/-- The names that collide are those that occur more than once. -/
theorem mem_collisions {n : Text} : n ∈ collisions names ↔ 2 ≤ names.count n := by
  rw [collisions, List.mem_filter, mem_firstOccurrences, decide_eq_true_eq]
  constructor
  · exact fun h => h.2
  · exact fun h => ⟨List.count_pos_iff.1 (by omega), h⟩

theorem pairwise_collisions (names : List Text) :
    (collisions names).Pairwise fun a b => names.idxOf a < names.idxOf b :=
  (pairwise_firstOccurrences names).filter _

/-- A name that collides is told once. -/
theorem nodup_collisions (names : List Text) : (collisions names).Nodup := by
  refine (pairwise_collisions names).imp ?_
  rintro a b hab rfl
  exact Nat.lt_irrefl _ hab

/-- Names of which none collides are different. -/
theorem nodup_of_collisions_eq_nil (h : collisions names = []) : names.Nodup := by
  rw [List.nodup_iff_count_le_one]
  intro n
  by_contra hn
  have hmem : n ∈ collisions names := mem_collisions.2 (by omega)
  rw [h] at hmem
  exact List.not_mem_nil hmem

end Field

/-! ## Warnings on names -/

/-- The beginning of the wording of a warning on a name. -/
def duplicateMark : Text := "Duplicate signature field name ".toList

/-- Whether a note is a warning on a name, as a reader of the log tells it. -/
def Note.isOnDuplicate (n : Note) : Bool :=
  n.level = .warning && duplicateMark.isPrefixOf n.message

namespace Signature

open Markup

theorem isOnDuplicate_duplicateField (name : Text) :
    (Note.duplicateField name).isOnDuplicate = true := by
  have hmessage : (Note.duplicateField name).message
      = duplicateMark ++ (quoted name ++ "; the last occurrence wins".toList) :=
    List.append_assoc _ _ _
  have hprefix : duplicateMark <+: (Note.duplicateField name).message := by
    rw [hmessage]
    exact List.prefix_append _ _
  rw [Note.isOnDuplicate, List.isPrefixOf_iff_prefix.2 hprefix]
  rfl

/-- The notes on a section are worded otherwise. -/
theorem isOnDuplicate_of_mem_sectionNotes {text : Text} {n : Note} (h : n ∈ sectionNotes text) :
    n.isOnDuplicate = false := by
  rw [sectionNotes] at h
  split at h
  · simp at h
  · rw [tableNotes] at h
    split at h
    · obtain ⟨line, -, hn⟩ := List.mem_filterMap.1 h
      rw [rowNote?, Option.ite_none_right_eq_some, Option.some.injEq] at hn
      rw [← hn.2]
      rfl
    · rw [List.mem_singleton.1 h]
      rfl

/-- The warnings on names among the notes on a block are those on the names that collide. -/
theorem filter_isOnDuplicate_renderNotes (options : Options) (text : Text) :
    (renderNotes options text).filter Note.isOnDuplicate
      = (Field.collisions (blockFields options text)).map .duplicateField := by
  have hblock : (blockNotes text).filter Note.isOnDuplicate = [] := by
    rw [List.filter_eq_nil_iff]
    intro n hn
    obtain ⟨part, -, hpart⟩ := List.mem_flatMap.1 hn
    rw [isOnDuplicate_of_mem_sectionNotes hpart]
    simp
  have hcollisions : (collisionNotes options (readBlock text)).filter Note.isOnDuplicate
      = collisionNotes options (readBlock text) := by
    rw [List.filter_eq_self]
    intro n hn
    obtain ⟨name, -, rfl⟩ := List.mem_map.1 hn
    exact isOnDuplicate_duplicateField name
  rw [renderNotes, List.filter_append, hblock, hcollisions, List.nil_append]
  rfl

/-- The warnings on names among the notes on a block name the names that two or more of the inputs
of its markup have, each of them once and in the order in which a reader first finds them.  So the
inputs of a block without such a warning have different names. -/
theorem duplicateNotes_render (refs : References) {options : Options}
    (hm : ¬ inputMark <:+: options.invalidTableMessage) (text : Text) :
    ∃ warned : List Text,
      (renderNotes options text).filter Note.isOnDuplicate = warned.map .duplicateField ∧
      (∀ name, name ∈ warned ↔ 2 ≤ (inputNames refs (render options text)).count name) ∧
      warned.Nodup ∧
      (warned.Pairwise fun a b =>
        (inputNames refs (render options text)).idxOf a
          < (inputNames refs (render options text)).idxOf b) ∧
      ((renderNotes options text).filter Note.isOnDuplicate = [] →
        (inputNames refs (render options text)).Nodup) := by
  rw [inputNames_render refs hm text, filter_isOnDuplicate_renderNotes]
  refine ⟨Field.collisions (blockFields options text), rfl, fun _ => Field.mem_collisions,
    Field.nodup_collisions _, Field.pairwise_collisions _, ?_⟩
  intro h
  exact Field.nodup_of_collisions_eq_nil (List.map_eq_nil_iff.1 h)

/-- Sections in which names are the same within a row, between rows and between sections, once the
spaces and slashes are taken out of them, with a value and an invalid table besides. -/
def collidingBlock : Text :=
  ("## Board\n|F|A B|AB|\n|--|--|--|\n|Date|...|...|\n|Name|...|x|\n|Da/te||...|\n"
    ++ "---\nno table\n---\n# Bo ard\n|F|AB|\n|--|--|\n|N/ame|...|\n").toList

theorem duplicateNotes_render_collidingBlock :
    ¬ inputMark <:+: Options.standard.invalidTableMessage ∧
      ∃ warned : List Text,
        (renderNotes .standard collidingBlock).filter Note.isOnDuplicate
          = warned.map .duplicateField ∧
        warned = ["Board_AB_Date".toList, "Board_AB_Name".toList] := by
  have hm : ¬ inputMark <:+: Options.standard.invalidTableMessage :=
    occursIn_eq_false_iff.1 (by decide)
  obtain ⟨warned, hnotes, -⟩ := duplicateNotes_render (.ofNames []) hm collidingBlock
  have hinjective : Function.Injective Note.duplicateField := by
    intro a b h
    injection h
  have hwarned : warned = Field.collisions (blockFields .standard collidingBlock) := by
    rw [filter_isOnDuplicate_renderNotes] at hnotes
    exact (List.map_injective_iff.2 hinjective hnotes).symm
  refine ⟨hm, warned, hnotes, ?_⟩
  rw [hwarned]
  decide +kernel

end Signature

end Prepress
