/-
# Tags in markup

A text is cut into character data and tags: a tag runs from `<` up to the next `>`, and what stands
outside of tags is character data (`cutTags`).  Cutting loses nothing (`flatten_cutTags`).

A text that ends outside of tags is read on its own, whatever follows it, as long as a tag comes
next (`Reads`).  So the tags of a text that is put together from such parts are those of its parts
(`Reads.append`, `reads_flatMap`).
-/
import Prepress.Markup
import Prepress.Text.Lines

namespace Prepress.Markup

open Text

/-! ## Cutting a text -/

/-- The character data and the tags of a text in turn, beginning with character data or, within a
tag, with the rest of the tag. -/
def cutTags : (inTag : Bool) → Text → List Text
  | _, [] => [[]]
  | false, c :: t =>
    if c = '<' then [] :: consLine c (cutTags true t) else consLine c (cutTags false t)
  | true, c :: t =>
    if c = '>' then [c] :: cutTags false t else consLine c (cutTags true t)

theorem flatten_consLine (c : Char) (ls : List Text) :
    (consLine c ls).flatten = c :: ls.flatten := by
  cases ls <;> rfl

/-- What a text is cut into is the text. -/
theorem flatten_cutTags (inTag : Bool) (t : Text) : (cutTags inTag t).flatten = t := by
  induction t generalizing inTag with
  | nil => cases inTag <;> rfl
  | cons c t ih =>
      cases inTag with
      | false =>
          rw [cutTags]
          split
          · rw [List.flatten_cons, flatten_consLine, ih, List.nil_append]
          · rw [flatten_consLine, ih]
      | true =>
          rw [cutTags]
          split
          · rw [List.flatten_cons, ih, List.singleton_append]
          · rw [flatten_consLine, ih]

/-- A tag ends at the first closing bracket. -/
theorem cutTags_true_append {m : Text} (hm : '>' ∉ m) (t : Text) :
    cutTags true (m ++ '>' :: t) = (m ++ ['>']) :: cutTags false t := by
  induction m with
  | nil => rfl
  | cons c m ih =>
      rw [List.mem_cons, not_or] at hm
      rw [List.cons_append, cutTags, if_neg fun hc => hm.1 hc.symm, ih hm.2]
      rfl

/-- Character data ends at the first opening bracket. -/
theorem cutTags_false_append {a : Text} (ha : '<' ∉ a) (t : Text) :
    cutTags false (a ++ '<' :: t) = a :: consLine '<' (cutTags true t) := by
  induction a with
  | nil => rfl
  | cons c a ih =>
      rw [List.mem_cons, not_or] at ha
      rw [List.cons_append, cutTags, if_neg fun hc => ha.1 hc.symm, ih ha.2]
      rfl

theorem cutTags_false_of_not_mem {a : Text} (ha : '<' ∉ a) : cutTags false a = [a] := by
  induction a with
  | nil => rfl
  | cons c a ih =>
      rw [List.mem_cons, not_or] at ha
      rw [cutTags, if_neg fun hc => ha.1 hc.symm, ih ha.2]
      rfl

/-! ## The tags of a text -/

/-- A tag and the character data up to the next tag. -/
structure Tagged where
  tag : Text
  data : Text
deriving DecidableEq

/-- The tags among character data and tags in turn, each with the data after it. -/
def pairTags : List Text → List Tagged
  | _ :: tag :: rest => ⟨tag, rest.headD []⟩ :: pairTags rest
  | _ => []

/-- What stands before the first tag does not count. -/
theorem pairTags_cons (a b : Text) (ls : List Text) : pairTags (a :: ls) = pairTags (b :: ls) := by
  cases ls <;> rfl

/-- The tags of a text, each with the character data after it. -/
def tagged (t : Text) : List Tagged := pairTags (cutTags false t)

/-- The tags of a text. -/
def tags (t : Text) : List Text := (tagged t).map Tagged.tag

/-- A single tag, from an opening bracket up to the first closing one. -/
def IsTag (g : Text) : Prop := ∃ m, '>' ∉ m ∧ g = '<' :: (m ++ ['>'])

/-- A beginning with one opening bracket and no closing one is made a tag by a closing bracket. -/
theorem isTag_concat {a : Text} (hh : a.head? = some '<') (ha : '>' ∉ a) : IsTag (a ++ ['>']) := by
  obtain ⟨m, rfl⟩ := List.head?_eq_some_iff.1 hh
  rw [List.mem_cons, not_or] at ha
  exact ⟨m, ha.2, rfl⟩

/-- Whether a literal is a tag is seen from the characters it is written with. -/
theorem isTag_literal {g : Text} (hh : g.dropLast.head? = some '<') (hl : g.getLast? = some '>')
    (hm : '>' ∉ g.dropLast) : IsTag (String.ofList g).toList := by
  rw [String.toList_ofList]
  obtain ⟨a, rfl⟩ := List.getLast?_eq_some_iff.1 hl
  rw [List.dropLast_concat] at hh hm
  exact isTag_concat hh hm

/-- A text that is empty or begins with an opening bracket. -/
def AtTag (t : Text) : Prop := ∀ c, t.head? = some c → c = '<'

theorem atTag_nil : AtTag [] := by
  intro c hc
  simp at hc

theorem IsTag.atTag_append {g : Text} (hg : IsTag g) (t : Text) : AtTag (g ++ t) := by
  obtain ⟨m, -, rfl⟩ := hg
  intro c hc
  exact (Option.some.inj hc).symm

/-- A tag and the data after it are the first thing that is read. -/
theorem tagged_append {g a rest : Text} (hg : IsTag g) (ha : '<' ∉ a) (hr : AtTag rest) :
    tagged (g ++ (a ++ rest)) = ⟨g, a⟩ :: tagged rest := by
  obtain ⟨m, hm, rfl⟩ := hg
  have hcut : cutTags false ('<' :: (m ++ ['>']) ++ (a ++ rest))
      = [] :: ('<' :: (m ++ ['>'])) :: cutTags false (a ++ rest) := by
    show [] :: consLine '<' (cutTags true (m ++ ['>'] ++ (a ++ rest))) = _
    rw [List.append_assoc, List.singleton_append, cutTags_true_append hm]
    rfl
  rw [tagged, hcut, pairTags]
  -- the data ends where the rest begins
  cases rest with
  | nil =>
      rw [List.append_nil, cutTags_false_of_not_mem ha]
      rfl
  | cons c rest =>
      rw [hr c rfl, cutTags_false_append ha, pairTags_cons a []]
      rfl

/-! ## Texts put together -/

/-- A text begins with a tag and has certain tags, with the data after them, whatever follows it, as
long as that begins with a tag as well. -/
def Reads (gs : List Tagged) (a : Text) : Prop :=
  AtTag a ∧ ∀ rest, AtTag rest → tagged (a ++ rest) = gs ++ tagged rest

theorem Reads.tagged_eq {gs : List Tagged} {a : Text} (h : Reads gs a) : tagged a = gs := by
  have hnil := h.2 [] atTag_nil
  rwa [List.append_nil, show tagged [] = [] from rfl, List.append_nil] at hnil

theorem reads_nil : Reads [] [] := ⟨atTag_nil, fun _ _ => rfl⟩

theorem reads_tag {g a : Text} (hg : IsTag g) (ha : '<' ∉ a) : Reads [⟨g, a⟩] (g ++ a) := by
  refine ⟨hg.atTag_append a, ?_⟩
  intro rest hr
  rw [List.append_assoc, tagged_append hg ha hr, List.singleton_append]

theorem AtTag.append {a b : Text} (ha : AtTag a) (hb : AtTag b) : AtTag (a ++ b) := by
  cases a with
  | nil => exact hb
  | cons c a =>
      intro d hd
      exact ha d hd

theorem Reads.append {gs hs : List Tagged} {a b : Text} (ha : Reads gs a) (hb : Reads hs b) :
    Reads (gs ++ hs) (a ++ b) := by
  refine ⟨ha.1.append hb.1, ?_⟩
  intro rest hr
  rw [List.append_assoc, ha.2 _ (hb.1.append hr), hb.2 rest hr, List.append_assoc]

/-- Texts one after the other have the tags of each of them. -/
theorem reads_flatMap {β : Type} {f : β → Text} {g : β → List Tagged} {l : List β}
    (h : ∀ b ∈ l, Reads (g b) (f b)) : Reads (l.flatMap g) (l.flatMap f) := by
  induction l with
  | nil => exact reads_nil
  | cons b l ih =>
      rw [List.flatMap_cons, List.flatMap_cons]
      exact (h b (by simp)).append (ih fun c hc => h c (List.mem_cons_of_mem b hc))

/-! ## Names and classes of tags -/

/-- The name of a tag; that of a closing tag begins with a slash. -/
def tagName (g : Text) : Text := (g.drop 1).takeWhile fun c => c != ' ' && c != '>'

end Prepress.Markup
