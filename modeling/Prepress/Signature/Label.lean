/-
# Plain labels

The label of a row may be set in bold or in italics by marks around it.  Its plain form has
no such marks: pairs of double marks go first, then double marks that are left, and then one
mark at either end.
-/
import Prepress.Text.Search

namespace Prepress.Signature

open Text

/-! ## Pairs of double marks -/

/-- The text from the first character on up to a double mark, and the text after the mark.
There is at least one character, and no line feed, before it. -/
def closing? (mark : Char) : Text → Option (Text × Text)
  | [] => none
  | c :: t =>
    if c = '\n' then none
    else
      match after? [mark, mark] t with
      | some rest => some ([c], rest)
      | none => (closing? mark t).map fun (inner, rest) => (c :: inner, rest)

/-- The text between double marks at the beginning of a text, and the text after them. -/
def emphasized? : Text → Option (Text × Text)
  | '*' :: '*' :: t => closing? '*' t
  | '_' :: '_' :: t => closing? '_' t
  | _ => none

theorem closing?_length {mark : Char} {t inner rest : Text}
    (h : closing? mark t = some (inner, rest)) : rest.length < t.length := by
  induction t generalizing inner with
  | nil => simp [closing?] at h
  | cons c t ih =>
    simp only [closing?] at h
    split at h
    · simp at h
    · split at h
      · next r hr =>
        cases h
        rw [after?_eq_some.1 hr]
        simp only [List.length_cons, List.length_append]
        omega
      · obtain ⟨⟨i, r⟩, hi, he⟩ := Option.map_eq_some_iff.1 h
        simp only [Prod.mk.injEq] at he
        obtain ⟨_, rfl⟩ := he
        have := ih hi
        simp only [List.length_cons]
        omega

theorem emphasized?_length {t inner rest : Text} (h : emphasized? t = some (inner, rest)) :
    rest.length < t.length := by
  unfold emphasized? at h
  split at h
  · have := closing?_length h
    simp only [List.length_cons]
    omega
  · have := closing?_length h
    simp only [List.length_cons]
    omega
  · simp at h

/-- The text without the pairs of double marks in it. -/
def dropPairs : Text → Text
  | [] => []
  | c :: t =>
    match _h : emphasized? (c :: t) with
    | some (inner, rest) => inner ++ dropPairs rest
    | none => c :: dropPairs t
termination_by t => t.length
decreasing_by
  · exact emphasized?_length _h
  · simp

/-! ## Labels -/

/-- The text without a mark that stands at both of its ends. -/
def dropEnds (t : Text) : Text :=
  match t with
  | c :: d :: r =>
    if (c = '*' ∨ c = '_') ∧ (d :: r).getLast? = some c then (d :: r).dropLast else t
  | _ => t

/-- The plain form of a label. -/
def plainLabel (t : Text) : Text :=
  trim (dropEnds (replace ['_', '_'] [] (replace ['*', '*'] [] (dropPairs (trim t)))))

end Prepress.Signature
