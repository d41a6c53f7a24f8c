/-
# Lines in which no bracket is opened

A line in which no bracket is opened can be shown in a colour, whatever else stands in it
(`exists_styled`).  Of its characters only backslashes at its end have to do with a tag: they stand
before the tag that closes the colour, and an odd number of them keeps it from being one.
-/
import Mathlib.Data.List.TakeWhile
import Prepress.Console.Line

namespace Prepress.Console

open Text

/-! ## Pieces -/

/-- The colours that lines are shown in. -/
def lineColours : List Text := ["green".toList, "yellow".toList, "red".toList]

/-- The tag that closes a colour, as it is written. -/
def closing (colour : Text) : Text := ['[', '/'] ++ colour ++ [']']

/-- A piece that is shown as it is. -/
def Piece.isShown : Piece → Bool
  | .plain _ | .kept _ => true
  | .tag _ => false

variable {colour line t : Text}

theorem pieces_length (t : Text) : pieces t.length t = [] := by
  induction t with
  | nil => rfl
  | cons c t ih => exact ih

/-- What backslashes stand before decides whether there is a tag. -/
theorem tagAt?_eq_none (h : ∀ r, t.dropWhile (· == '\\') ≠ '[' :: r) : tagAt? t = none := by
  have hdrop : t.drop (t.takeWhile (· == '\\')).length = t.dropWhile (· == '\\') := by
    have happend := List.takeWhile_append_dropWhile (p := (· == '\\')) (l := t)
    generalize t.takeWhile (· == '\\') = a, t.dropWhile (· == '\\') = b at happend
    rw [← happend, List.drop_left]
  rw [tagAt?]
  dsimp only
  rw [hdrop]
  split
  · next r hr => exact absurd hr (h r)
  · rfl

theorem pieces_of_tagAt?_eq_none {c : Char} (h : tagAt? (c :: t) = none) :
    pieces 0 (c :: t) = consPlain c (pieces 0 t) := by
  rw [pieces, h]

/-- Some shown pieces, and perhaps a tag that closes a colour. -/
def ShowsUpTo (colour : Text) (ps : List Piece) : Prop :=
  ∃ front back, ps = front ++ back ∧ (∀ p ∈ front, p.isShown = true) ∧
    (back = [] ∨ back = [.tag ⟨'/' :: colour, none⟩])

theorem ShowsUpTo.consPlain {ps : List Piece} (h : ShowsUpTo colour ps) (c : Char) :
    ShowsUpTo colour (consPlain c ps) := by
  obtain ⟨front, back, rfl, hfront, hback⟩ := h
  match front, hfront with
  | .plain t :: front, hfront =>
      obtain ⟨-, hfront⟩ := List.forall_mem_cons.1 hfront
      exact ⟨.plain (c :: t) :: front, back, rfl, List.forall_mem_cons.2 ⟨rfl, hfront⟩, hback⟩
  | .kept t :: front, hfront =>
      exact ⟨.plain [c] :: .kept t :: front, back, rfl, List.forall_mem_cons.2 ⟨rfl, hfront⟩, hback⟩
  | .tag tag :: front, hfront =>
      have hshown : (Piece.tag tag).isShown = true := hfront _ List.mem_cons_self
      cases hshown
  | [], _ =>
      refine ⟨[.plain [c]], back, ?_, List.forall_mem_singleton.2 rfl, hback⟩
      rcases hback with rfl | rfl <;> rfl

/-- Where all that is left of a line has been found, there are no other pieces. -/
theorem pieces_of_tagAt?_eq_length {found : List Piece} (h : tagAt? t = some (found, t.length)) :
    pieces 0 t = found := by
  cases t with
  | nil => cases h
  | cons c t =>
      rw [pieces, h]
      exact (congrArg _ (pieces_length t)).trans (List.append_nil _)

/-- What the tag that closes a colour is with backslashes before it: every second one is kept, and
one that is left over keeps the tag from being one. -/
def slashedClosing (colour : Text) (k : Nat) : List Piece :=
  (if k < 2 then [] else [.kept (List.replicate (k / 2) '\\')]) ++
    [if k % 2 = 0 then .tag (.ofText ('/' :: colour)) else .kept ('[' :: ('/' :: colour) ++ [']'])]

/-- The tag that closes a colour takes all that is left of the line. -/
theorem pieces_slashes (hcolour : colour ∈ lineColours) (k : Nat) :
    pieces 0 (List.replicate k '\\' ++ closing colour) = slashedClosing colour k := by
  have htag : ∀ colour ∈ lineColours, inTag? ('/' :: colour ++ [']']) = some ('/' :: colour) := by
    decide
  have hslashes : (List.replicate k '\\' ++ closing colour).takeWhile (· == '\\')
      = List.replicate k '\\' := by
    induction k with
    | zero => rfl
    | succ k ih => rw [List.replicate_succ, List.cons_append, List.takeWhile_cons_of_pos rfl, ih]
  have hlength : (List.replicate k '\\' ++ closing colour).length
      = k + ('/' :: colour).length + 2 := by
    rw [List.length_append, List.length_replicate, closing]
    simp only [List.length_append, List.length_cons, List.length_nil]
    omega
  apply pieces_of_tagAt?_eq_length
  rw [tagAt?]
  dsimp only
  rw [hslashes, List.drop_left, hlength]
  show (inTag? ('/' :: colour ++ [']'])).map _ = _
  rw [htag colour hcolour, List.length_replicate]
  rfl

/-- Backslashes before the tag that closes a colour. -/
theorem showsUpTo_slashes (hcolour : colour ∈ lineColours) (k : Nat) :
    ShowsUpTo colour (pieces 0 (List.replicate k '\\' ++ closing colour)) := by
  have htag : ∀ colour ∈ lineColours, Tag.ofText ('/' :: colour) = ⟨'/' :: colour, none⟩ := by
    decide
  have hkept : ∀ p ∈ (if k < 2 then [] else [Piece.kept (List.replicate (k / 2) '\\')]),
      p.isShown = true := by
    intro p hp
    split at hp
    · cases hp
    · rw [List.mem_singleton.1 hp]
      rfl
  rw [pieces_slashes hcolour, slashedClosing, htag colour hcolour]
  by_cases heven : k % 2 = 0
  · rw [if_pos heven]
    exact ⟨_, _, rfl, hkept, Or.inr rfl⟩
  · rw [if_neg heven]
    refine ⟨_ ++ [_], [], (List.append_nil _).symm, ?_, Or.inl rfl⟩
    exact List.forall_mem_append.2 ⟨hkept, List.forall_mem_singleton.2 rfl⟩

/-- A line in which no bracket is opened has shown pieces only. -/
theorem showsUpTo_pieces (hcolour : colour ∈ lineColours) (h : '[' ∉ line) :
    ShowsUpTo colour (pieces 0 (line ++ closing colour)) := by
  induction line with
  | nil => exact showsUpTo_slashes hcolour 0
  | cons c line ih =>
      by_cases hslashes : ∀ d ∈ c :: line, d = '\\'
      · rw [List.eq_replicate_of_mem hslashes]
        exact showsUpTo_slashes hcolour _
      · -- behind the backslashes comes a character of the line
        have hnone : tagAt? (c :: (line ++ closing colour)) = none := by
          refine tagAt?_eq_none fun r hr => ?_
          rw [← List.cons_append] at hr
          have hrest : (c :: line).dropWhile (· == '\\') ≠ [] := by
            rw [Ne, List.dropWhile_eq_nil_iff]
            simpa only [beq_iff_eq] using hslashes
          rw [List.dropWhile_append, if_neg (by simpa using hrest)] at hr
          obtain ⟨d, rest, hd⟩ := List.exists_cons_of_ne_nil hrest
          rw [hd, List.cons_append, List.cons.injEq] at hr
          refine h ((List.dropWhile_suffix (p := (· == '\\'))).mem ?_)
          rw [hd, hr.1]
          exact List.mem_cons_self
        show ShowsUpTo colour (pieces 0 (c :: (line ++ closing colour)))
        rw [pieces_of_tagAt?_eq_none hnone]
        exact (ih fun hline => h (List.mem_cons_of_mem c hline)).consPlain c

/-! ## What is shown -/

/-- Pieces are shown with tags of which only some can be open. -/
def Shows (tags : List Tag) (ps : List Piece) : Prop :=
  ∀ opened : List OpenTag, opened.map (·.tag) = tags →
    ∃ text styles, shown opened ps = .ok (text, styles) ∧ ∀ o ∈ styles, o.tag ∈ tags

theorem Shows.cons {tags : List Tag} {ps : List Piece} {p : Piece} (h : Shows tags ps)
    (hp : p.isShown = true) : Shows tags (p :: ps) := by
  intro opened hopened
  have hover : ∀ t, (opened.map (·.over t)).map (·.tag) = tags := by
    intro t
    rw [List.map_map, ← hopened]
    rfl
  match p, hp with
  | .plain t, _ | .kept t, _ =>
      obtain ⟨text, styles, hshown, hstyles⟩ := h _ (hover (shownOf t))
      refine ⟨shownOf t ++ text, styles, ?_, hstyles⟩
      rw [shown, hshown]
      rfl

theorem commonName_of_mem (hcolour : colour ∈ lineColours) : commonName colour = .ok colour := by
  have hname : ∀ colour ∈ lineColours, (commonName colour).toOption = some colour := by
    decide +kernel
  have hcommon := hname colour hcolour
  cases hc : commonName colour with
  | error fault =>
      rw [hc] at hcommon
      cases hcommon
  | ok name =>
      rw [hc] at hcommon
      rw [Option.some.inj hcommon]

theorem shows_of_showsUpTo {ps : List Piece} (hcolour : colour ∈ lineColours)
    (h : ShowsUpTo colour ps) : Shows [⟨colour, none⟩] ps := by
  have hname : ∀ colour ∈ lineColours, trim colour = colour ∧ colour.isEmpty = false ∧
      colour.head? ≠ some '@' := by
    decide +kernel
  obtain ⟨front, back, rfl, hfront, hback⟩ := h
  induction front with
  | nil =>
      intro opened hopened
      obtain ⟨⟨tag, covers⟩, rfl, rfl⟩ := List.map_eq_singleton_iff.1 hopened
      rcases hback with rfl | rfl
      · exact ⟨[], _, rfl, by simp⟩
      · obtain ⟨htrim, hne, hat⟩ := hname colour hcolour
        refine ⟨[], [⟨⟨colour, none⟩, covers⟩], ?_, by simp⟩
        have hclosed : closed? colour [⟨⟨colour, none⟩, covers⟩]
            = some (⟨⟨colour, none⟩, covers⟩, []) := by
          rw [closed?, if_pos (Or.inr rfl)]
        rw [List.nil_append, shown, htrim, hne, commonName_of_mem hcolour,
          if_neg Bool.false_ne_true]
        dsimp only [bind, Except.bind]
        rw [hclosed]
        dsimp only
        rw [if_neg hat, shown]
  | cons p front ih =>
      obtain ⟨hp, hfront⟩ := List.forall_mem_cons.1 hfront
      exact (ih hfront).cons hp

/-- A line in which no bracket is opened can be shown in a colour. -/
theorem exists_styled (hcolour : colour ∈ lineColours) (h : '[' ∉ line) :
    ∃ text, styled colour line = .ok text := by
  have hopening : ∀ colour ∈ lineColours, ∀ rest : Text,
      pieces 0 (['['] ++ colour ++ [']'] ++ rest) = .tag ⟨colour, none⟩ :: pieces 0 rest := by
    simp only [lineColours, List.forall_mem_cons]
    exact ⟨fun _ => rfl, fun _ => rfl, fun _ => rfl, by simp⟩
  have hcolours : ∀ colour ∈ lineColours, colour.head? ≠ some '/' ∧
      ∀ covers, (OpenTag.mk ⟨colour, none⟩ covers).lacksNumber = false := by
    decide +kernel
  obtain ⟨hslash, hnumber⟩ := hcolours colour hcolour
  obtain ⟨text, styles, hshown, hstyles⟩ :=
    shows_of_showsUpTo hcolour (showsUpTo_pieces hcolour h) [⟨⟨colour, none⟩, false⟩] rfl
  have hopened : ['['] ++ colour ++ [']'] ++ line ++ ['[', '/'] ++ colour ++ [']']
      = ['['] ++ colour ++ [']'] ++ (line ++ closing colour) := by
    simp only [closing, List.append_assoc]
  have hall : shown [] (pieces 0 (['['] ++ colour ++ [']'] ++ (line ++ closing colour)))
      = .ok (text, styles) := by
    rw [hopening colour hcolour, shown, commonName_of_mem hcolour]
    · exact hshown
    · rintro name rfl
      exact hslash rfl
  have hfits : ∀ o ∈ styles, o.lacksNumber = false := by
    rintro ⟨tag, covers⟩ ho
    obtain rfl : tag = ⟨colour, none⟩ := List.mem_singleton.1 (hstyles _ ho)
    exact hnumber covers
  rw [styled, hopened]
  dsimp only
  rw [hall]
  refine ⟨_, if_neg ?_⟩
  rw [Bool.not_eq_true, List.any_eq_false]
  intro o ho
  simp [hfits o ho]

end Prepress.Console
