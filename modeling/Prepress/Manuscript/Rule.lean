/-
# Horizontal rules

A rule is a line of four hyphens or more, with spaces and tabulators around them.  Rules become
page breaks.
-/
import Prepress.Text.Blank

namespace Prepress.Manuscript

open Text

/-- What follows a rule, and its line feed, at the beginning of a text. -/
def afterRule? (t : Text) : Option Text :=
  let r := t.dropWhile isIndent
  if (r.takeWhile (· == '-')).length < 4 then none
  else
    match (r.dropWhile (· == '-')).dropWhile isIndent with
    | [] => some []
    | c :: rest => if c = '\n' then some rest else none

theorem afterRule?_length {t rest : Text} (h : afterRule? t = some rest) :
    rest.length < t.length := by
  simp only [afterRule?] at h
  split at h
  · simp at h
  · next hd =>
    have h1 := length_dropWhile_le isIndent t
    generalize t.dropWhile isIndent = r at h hd h1
    have h2 : (r.takeWhile (· == '-')).length + (r.dropWhile (· == '-')).length = r.length := by
      rw [← List.length_append, List.takeWhile_append_dropWhile]
    have h3 := length_dropWhile_le isIndent (r.dropWhile (· == '-'))
    split at h
    · cases h
      simp only [List.length_nil]
      omega
    · next c s hs =>
      rw [hs] at h3
      simp only [List.length_cons] at h3
      split at h
      · cases h
        omega
      · simp at h

/-- A text with its rules replaced, from a point at the beginning of a line or within one. -/
def replaceRulesFrom (marker : Text) : (lineStart : Bool) → Text → Text
  | _, [] => []
  | lineStart, c :: t =>
    match _h : if lineStart then afterRule? (c :: t) else none with
    | some rest => marker ++ replaceRulesFrom marker true rest
    | none => c :: replaceRulesFrom marker (c == '\n') t
termination_by _ t => t.length
decreasing_by
  · split at _h
    · exact afterRule?_length _h
    · simp at _h
  · simp

/-- A text with its rules, and the line feeds after them, replaced by a marker. -/
def replaceRules (marker t : Text) : Text := replaceRulesFrom marker true t

end Prepress.Manuscript
