/-
# Preparing a manuscript

A manuscript is prepared in steps, in a fixed order.  The date takes the place of its
placeholder, the text is made safe for the printing surface, line ends become line feeds,
signature blocks and then timeline blocks are rendered, rules become page breaks, and line feeds
become line ends of the platform.
-/
import Prepress.Calendar.Stamp
import Prepress.Manuscript.Fence
import Prepress.Manuscript.Rule
import Prepress.Signature.Html
import Prepress.Surface
import Prepress.Timeline.Svg

namespace Prepress.Manuscript

open Text

/-! ## Options -/

/-- The options of preparing a manuscript. -/
structure Options (α : Type) where
  datePlaceholder : Text
  dateFormat : Text
  pageBreakMarker : Text
  signatureFailure : Text
  timelineFailure : Text
  restoreNewlines : Bool
  timeline : Timeline.Options α
  signatures : Signature.Options

variable {α : Type} [Measure α]

/-- The options of a manuscript that says nothing about them. -/
def Options.standard : Options α where
  datePlaceholder := "[Date]".toList
  dateFormat := "%x".toList
  pageBreakMarker := "<div style=\"page-break-after: always;\"></div>\n".toList
  signatureFailure := "<pre>Failed to render signature block</pre>".toList
  timelineFailure := "<pre>Failed to render timeline</pre>".toList
  restoreNewlines := true
  timeline := Timeline.Options.standard
  signatures := Signature.Options.standard

/-! ## Steps -/

/-- The tag of signature blocks. -/
def signaturesTag : Text := "signatures".toList

/-- The tag of timeline blocks. -/
def timelineTag : Text := "timeline".toList

/-- The current date as the options ask for it. -/
def dateText (o : Options α) (now : Instant) : Text := Calendar.Stamp.format now o.dateFormat

/-- A text that is safe for the printing surface and has line feeds only. -/
def cleaned (t : Text) : Text := normalizeNewlines (Surface.sanitize t)

/-- A manuscript with its date, cleaned. -/
def dated (o : Options α) (now : Instant) (t : Text) : Text :=
  cleaned (replace o.datePlaceholder (dateText o now) t)

/-- A text with its signature blocks rendered. -/
def signed (o : Options α) (t : Text) : Text :=
  @expand Empty signaturesTag o.signatureFailure
    (fun body => .ok (Signature.render o.signatures body)) t

/-- A text with its timeline blocks rendered. -/
def drawn (o : Options α) (t : Text) : Text :=
  expand timelineTag o.timelineFailure (fun body => (Timeline.render o.timeline body).result) t

/-- A text with the line ends of the platform. -/
def restored (o : Options α) (lineEnd t : Text) : Text :=
  if o.restoreNewlines ∧ lineEnd ≠ ['\n'] then replaceChar '\n' lineEnd t else t

/-- A manuscript prepared; an empty one stays empty. -/
def prepare (o : Options α) (now : Instant) (lineEnd t : Text) : Text :=
  if t.isEmpty then []
  else restored o lineEnd (replaceRules o.pageBreakMarker (drawn o (signed o (dated o now t))))

/-! ## Notes -/

/-- The notes on a timeline block. -/
def timelineNotes (o : Options α) (body : Text) : List Note :=
  let rendering := Timeline.render o.timeline body
  rendering.notes
    ++ (match rendering.result with
      | .ok _ => []
      | .error _ => [.failedBlock .timeline])

/-- The notes on a manuscript. -/
def prepareNotes (o : Options α) (now : Instant) (t : Text) : List Note :=
  if t.isEmpty then []
  else
    (bodies signaturesTag (dated o now t)).flatMap (Signature.renderNotes o.signatures)
      ++ (bodies timelineTag (signed o (dated o now t))).flatMap (timelineNotes o)

/-! ## Fields -/

/-- The names of the form fields of a manuscript. -/
def fieldNames (options : Signature.Options) (t : Text) : List Text :=
  (bodies signaturesTag (cleaned t)).flatMap (Signature.blockFields options)

/-- The notes on reading the signature blocks of a manuscript. -/
def fieldNotes (t : Text) : List Note :=
  (bodies signaturesTag (cleaned t)).flatMap Signature.blockNotes

/-- Whether a manuscript has the beginning of a signature block. -/
def hasSignatureBlocks (t : Text) : Bool := hasFence signaturesTag t

end Prepress.Manuscript
