/-
# Searching and replacing

Occurrences are found from the left and do not overlap.  The empty text occurs before every
character and at the end.
-/
import Prepress.Text.Blank

namespace Prepress.Text

/-- What follows a given beginning of a text, when the text begins so. -/
def after? : (lead t : Text) → Option Text
  | [], t => some t
  | _ :: _, [] => none
  | l :: ls, c :: t => if l = c then after? ls t else none

theorem after?_eq_some {lead t r : Text} : after? lead t = some r ↔ t = lead ++ r := by
  induction lead generalizing t with
  | nil => simp [after?]
  | cons l ls ih =>
    cases t with
    | nil => simp [after?]
    | cons c t =>
      simp only [after?]
      split
      · next h => subst h; simp [ih]
      · next h => simpa using fun hc => absurd hc.symm h

/-- Whether a text begins in a given way. -/
def startsWith (lead t : Text) : Bool := (after? lead t).isSome

/-- The text before the first occurrence of a mark, and the text after it. -/
def cut? (mark : Text) : Text → Option (Text × Text)
  | [] => if mark.isEmpty then some ([], []) else none
  | c :: t =>
    match after? mark (c :: t) with
    | some r => some ([], r)
    | none => (cut? mark t).map fun (before, r) => (c :: before, r)

/-- Whether a text occurs in another. -/
def occursIn (mark t : Text) : Bool := (cut? mark t).isSome

theorem eq_of_cut? {mark t before r : Text} (h : cut? mark t = some (before, r)) :
    t = before ++ mark ++ r := by
  induction t generalizing before with
  | nil =>
    simp only [cut?] at h
    split at h
    · next hm => simp_all
    · simp at h
  | cons c t ih =>
    simp only [cut?] at h
    split at h
    · next r' hr =>
      cases h
      simpa using after?_eq_some.1 hr
    · obtain ⟨⟨b, s⟩, hb, he⟩ := Option.map_eq_some_iff.1 h
      cases he
      simp [ih hb]

/-- Replaces the occurrences that begin after the next `skip` characters. -/
def replaceFrom (old new : Text) : Nat → Text → Text
  | _, [] => []
  | skip + 1, _ :: t => replaceFrom old new skip t
  | 0, c :: t =>
    if startsWith old (c :: t) then new ++ replaceFrom old new (old.length - 1) t
    else c :: replaceFrom old new 0 t

/-- Every occurrence of `old` replaced by `new`; for an empty `old`, `new` goes before every
character and to the end. -/
def replace (old new t : Text) : Text :=
  if old.isEmpty then new ++ t.flatMap (fun c => c :: new) else replaceFrom old new 0 t

/-- Every occurrence of a character replaced by a text. -/
def replaceChar (old : Char) (new t : Text) : Text :=
  t.flatMap fun c => if c = old then new else [c]

theorem replaceChar_append (old : Char) (new a b : Text) :
    replaceChar old new (a ++ b) = replaceChar old new a ++ replaceChar old new b := by
  simp [replaceChar]

end Prepress.Text
