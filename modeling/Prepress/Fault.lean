/-
# Faults

What can be wrong with a date, a table or an option, and what can keep a drawing from being
made.  A fault belongs to a kind, the kinds form a tree, and each cause has its wording.
-/
import Prepress.Text.Numeral

namespace Prepress

open Text

/-! ## Kinds -/

/-- The kinds of faults. -/
inductive FaultKind where
  | general
  | directive
  | timeline
  | signature
  | configuration
deriving DecidableEq

namespace FaultKind

/-- The kind of which a kind is a special case. -/
def parent? : FaultKind → Option FaultKind
  | .general => none
  | .directive => some .general
  | .timeline => some .directive
  | .signature => some .directive
  | .configuration => some .general

/-- A kind and the kinds above it, nearest first. -/
def lineage : FaultKind → List FaultKind
  | .general => [.general]
  | .directive => [.directive, .general]
  | .timeline => [.timeline, .directive, .general]
  | .signature => [.signature, .directive, .general]
  | .configuration => [.configuration, .general]

/-- Above a kind stands the lineage of its parent. -/
theorem lineage_eq (k : FaultKind) :
    k.lineage = k :: (k.parent?.map lineage).getD [] := by
  cases k <;> rfl

end FaultKind

/-! ## Faults -/

/-- A fault: its kind, a message and perhaps details. -/
structure Fault where
  kind : FaultKind
  message : Text
  details : Option Text

/-- The message, followed by the details unless they are missing or empty. -/
def Fault.text (f : Fault) : Text :=
  match f.details with
  | some (c :: t) => f.message ++ ": ".toList ++ c :: t
  | _ => f.message

/-! ## Causes -/

/-- What is wrong with a piece of input. -/
inductive Cause where
  | unrecognizedDate (token : Text)
  | tableWithoutHead
  | tableWithoutSignatories (header : Text)
  | canvasNotPositive
  | canvasWithoutRoom (width labelWidth rightMargin : Int)
deriving DecidableEq

/-- The fault that a cause amounts to. -/
def Cause.fault : Cause → Fault
  | .unrecognizedDate token => ⟨.timeline, "Unrecognized date".toList, some token⟩
  | .tableWithoutHead =>
    ⟨.signature, "Signature table needs a header and a separator row".toList, none⟩
  | .tableWithoutSignatories header =>
    ⟨.signature,
      "Signature table needs a field column and at least one signatory column".toList,
      some header⟩
  | .canvasNotPositive =>
    ⟨.configuration, "Timeline dimensions must be positive".toList, none⟩
  | .canvasWithoutRoom width labelWidth rightMargin =>
    ⟨.configuration,
      "Label column and right margin leave no room for the timeline".toList,
      some ("width=".toList ++ ofInt width ++ ", label_width=".toList ++ ofInt labelWidth
        ++ ", right_margin=".toList ++ ofInt rightMargin)⟩

/-- The wording of a cause. -/
def Cause.text (c : Cause) : Text := c.fault.text

/-- What keeps a drawing from being made: there is no task in it, a date or a number lies out
of range, or the font of its labels is not known. -/
inductive DrawingFault where
  | noTasks
  | outOfRange
  | unknownFont (name : Text)
deriving DecidableEq

end Prepress
