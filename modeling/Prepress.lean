import Prepress.Calendar.Date
import Prepress.Calendar.Form
import Prepress.Calendar.Instant
import Prepress.Calendar.Iso
import Prepress.Calendar.Names
import Prepress.Calendar.Reading
import Prepress.Calendar.Span
import Prepress.Calendar.Stamp
import Prepress.Command.Arguments
import Prepress.Command.Listing
import Prepress.Command.Run
import Prepress.Console.Cell
import Prepress.Console.CellTable
import Prepress.Console.ColourTable
import Prepress.Console.Emoji
import Prepress.Console.EmojiTable
import Prepress.Console.Line
import Prepress.Console.Literal
import Prepress.Console.LiteralToken
import Prepress.Console.Style
import Prepress.Fault
import Prepress.Field
import Prepress.Files.Path
import Prepress.Files.Store
import Prepress.Font.Metrics
import Prepress.Font.WidthTable
import Prepress.Journal.Basic
import Prepress.Journal.Format
import Prepress.Journal.Logger
import Prepress.Journal.Setup
import Prepress.Main
import Prepress.Manuscript.Fence
import Prepress.Manuscript.Preparation
import Prepress.Manuscript.Rule
import Prepress.Markup
import Prepress.Note
import Prepress.Number.Amount
import Prepress.Number.Measure
import Prepress.Number.Rounding
import Prepress.Number.Total
import Prepress.Number.Value
import Prepress.Proofs.Calendar.RoundTrip
import Prepress.Proofs.Calendar.Spelling
import Prepress.Proofs.Calendar.Writing
import Prepress.Proofs.Command.Data
import Prepress.Proofs.Command.Fields
import Prepress.Proofs.Command.Processing
import Prepress.Proofs.Command.Reading
import Prepress.Proofs.Command.Steps
import Prepress.Proofs.Console.Line
import Prepress.Proofs.Files.Opening
import Prepress.Proofs.Files.Writing
import Prepress.Proofs.Font.Fit
import Prepress.Proofs.Journal.Calls
import Prepress.Proofs.Journal.Consoles
import Prepress.Proofs.Journal.Failures
import Prepress.Proofs.Journal.Lines
import Prepress.Proofs.Journal.Loggers
import Prepress.Proofs.Journal.Places
import Prepress.Proofs.Journal.Quiet
import Prepress.Proofs.Manuscript.Composition
import Prepress.Proofs.Manuscript.Detection
import Prepress.Proofs.Manuscript.Fence
import Prepress.Proofs.Manuscript.Fields
import Prepress.Proofs.Manuscript.Labels
import Prepress.Proofs.Manuscript.LineEnds
import Prepress.Proofs.Manuscript.OtherFences
import Prepress.Proofs.Manuscript.PageBreaks
import Prepress.Proofs.Manuscript.Passages
import Prepress.Proofs.Manuscript.Placeholder
import Prepress.Proofs.Manuscript.Rule
import Prepress.Proofs.Manuscript.Scan
import Prepress.Proofs.Manuscript.Stability
import Prepress.Proofs.Markup.Attributes
import Prepress.Proofs.Markup.References
import Prepress.Proofs.Markup.Tags
import Prepress.Proofs.Markup.Values
import Prepress.Proofs.Markup.Words
import Prepress.Proofs.Number.Amount
import Prepress.Proofs.Number.Double
import Prepress.Proofs.Number.Exact
import Prepress.Proofs.Number.Rounding
import Prepress.Proofs.Number.Short
import Prepress.Proofs.Number.Sign
import Prepress.Proofs.Signature.BoldMarks
import Prepress.Proofs.Signature.Collisions
import Prepress.Proofs.Signature.Contents
import Prepress.Proofs.Signature.Grammar
import Prepress.Proofs.Signature.Html
import Prepress.Proofs.Signature.Inputs
import Prepress.Proofs.Signature.Lettering
import Prepress.Proofs.Signature.Markup
import Prepress.Proofs.Signature.Places
import Prepress.Proofs.Signature.Reading
import Prepress.Proofs.Signature.Sections
import Prepress.Proofs.Signature.States
import Prepress.Proofs.Signature.Words
import Prepress.Proofs.Surface
import Prepress.Proofs.Surface.Passes
import Prepress.Proofs.Text.Case
import Prepress.Proofs.Text.Doubles
import Prepress.Proofs.Text.Layout
import Prepress.Proofs.Text.LinePattern
import Prepress.Proofs.Text.Newlines
import Prepress.Proofs.Text.Numeral
import Prepress.Proofs.Text.Occurrence
import Prepress.Proofs.Text.Pattern
import Prepress.Proofs.Text.Sublist
import Prepress.Proofs.Text.Thinning
import Prepress.Proofs.Text.Wall
import Prepress.Proofs.Text.Within
import Prepress.Proofs.Timeline.Axis
import Prepress.Proofs.Timeline.BarDates
import Prepress.Proofs.Timeline.Bars
import Prepress.Proofs.Timeline.Dates
import Prepress.Proofs.Timeline.Directives
import Prepress.Proofs.Timeline.Durations
import Prepress.Proofs.Timeline.Grammar
import Prepress.Proofs.Timeline.Labels
import Prepress.Proofs.Timeline.LineByLine
import Prepress.Proofs.Timeline.Markup
import Prepress.Proofs.Timeline.Numerals
import Prepress.Proofs.Timeline.OneTask
import Prepress.Proofs.Timeline.Outline
import Prepress.Proofs.Timeline.Reading
import Prepress.Proofs.Timeline.Rendering
import Prepress.Proofs.Timeline.Rows
import Prepress.Proofs.Timeline.Shift
import Prepress.Proofs.Timeline.SkippedLines
import Prepress.Proofs.Timeline.Svg
import Prepress.Proofs.Timeline.Words
import Prepress.Signature.Basic
import Prepress.Signature.Html
import Prepress.Signature.Label
import Prepress.Signature.Reading
import Prepress.Surface
import Prepress.Text.Blank
import Prepress.Text.Case
import Prepress.Text.CaseTable
import Prepress.Text.Digit
import Prepress.Text.Lines
import Prepress.Text.Name
import Prepress.Text.NameTable
import Prepress.Text.Numeral
import Prepress.Text.Quoted
import Prepress.Text.Range
import Prepress.Text.Search
import Prepress.Text.UnprintableTable
import Prepress.Text.WordTable
import Prepress.Timeline.Basic
import Prepress.Timeline.Drawing
import Prepress.Timeline.Duration
import Prepress.Timeline.Layout
import Prepress.Timeline.Line
import Prepress.Timeline.Options
import Prepress.Timeline.Reading
import Prepress.Timeline.Svg
