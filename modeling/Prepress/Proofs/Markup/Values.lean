/-
# Values in markup

The values of an attribute, or the contents of an element, are what stands in a text after each
occurrence of a mark, up to a closing character (`valuesAfter`).  A text that is put together from
parts has the values of its parts, as long as no mark reaches from one part into the next
(`Adds`).
-/
import Prepress.Proofs.Text.Occurrence
import Prepress.Text.Lines

namespace Prepress.Markup

open Text

/-! ## Values -/

/-- What stands after each occurrence of a mark, up to a closing character. -/
def valuesAfter (mark : Text) (stop : Char) : Text → List Text
  | [] => []
  | c :: t =>
    match after? mark (c :: t) with
    | some r => r.takeWhile (· != stop) :: valuesAfter mark stop t
    | none => valuesAfter mark stop t

variable {mark : Text} {stop : Char}

/-- A text in which no mark begins can be left out. -/
theorem valuesAfter_append {a b : Text} (h : Nowhere (mark <+: ·) a b) :
    valuesAfter mark stop (a ++ b) = valuesAfter mark stop b := by
  induction a with
  | nil => rfl
  | cons c a ih =>
      rw [nowhere_cons] at h
      rw [List.cons_append, valuesAfter, after?_eq_none_iff.2 h.1, ← ih h.2]

/-- A mark gives the value that stands after it. -/
theorem valuesAfter_mark {c : Char} {m v : Text} (hc : c ∉ m) (hv : stop ∉ v) (t : Text) :
    valuesAfter (c :: m) stop (c :: m ++ (v ++ stop :: t))
      = v :: valuesAfter (c :: m) stop (v ++ stop :: t) := by
  have hvalue : (v ++ stop :: t).takeWhile (· != stop) = v := by
    have hall : ∀ d ∈ v, (d != stop) = true := by
      intro d hd
      rw [bne_iff_ne]
      exact fun he => hv (by rw [← he]; exact hd)
    rw [List.takeWhile_append_of_pos hall, List.takeWhile_cons_of_neg (by simp), List.append_nil]
  rw [List.cons_append, valuesAfter, ← List.cons_append, after?_append]
  show (v ++ stop :: t).takeWhile (· != stop) :: _ = _
  -- the mark does not begin a second time within itself
  rw [hvalue, valuesAfter_append (nowhere_of_head (by rfl) hc _)]

/-! ## Texts put together -/

/-- A text adds its values to those of what follows it. -/
def Adds (mark : Text) (stop : Char) (vs : List Text) (a : Text) : Prop :=
  ∀ b, valuesAfter mark stop (a ++ b) = vs ++ valuesAfter mark stop b

theorem Adds.valuesAfter_eq {vs : List Text} {a : Text} (h : Adds mark stop vs a) :
    valuesAfter mark stop a = vs := by
  have := h []
  rwa [List.append_nil, valuesAfter, List.append_nil] at this

theorem adds_nil : Adds mark stop [] [] := fun _ => rfl

theorem Adds.append {vs ws : List Text} {a b : Text} (ha : Adds mark stop vs a)
    (hb : Adds mark stop ws b) : Adds mark stop (vs ++ ws) (a ++ b) := by
  intro c
  rw [List.append_assoc, ha, hb, List.append_assoc]

/-- A text in which no mark begins adds nothing. -/
theorem adds_of_nowhere {a : Text} (h : ∀ b, Nowhere (mark <+: ·) a b) :
    Adds mark stop [] a :=
  fun b => valuesAfter_append (h b)

theorem adds_of_isApart {a : Text} (h : isApart mark a = true) : Adds mark stop [] a :=
  adds_of_nowhere (nowhere_of_isApart h)

/-- Whether a literal is apart from a mark is seen from the characters they are written with. -/
theorem adds_literal {m l : Text} (h : isApart m l = true) :
    Adds (String.ofList m).toList stop [] (String.ofList l).toList := by
  rw [String.toList_ofList, String.toList_ofList]
  exact adds_of_isApart h

/-- A text without the first character of the mark adds nothing. -/
theorem adds_of_head {a : Text} {c : Char} (hc : mark.head? = some c) (h : c ∉ a) :
    Adds mark stop [] a :=
  adds_of_nowhere (nowhere_of_head hc h)

/-- A mark whose first character is not in the rest of it adds the value that stands after it. -/
theorem adds_mark {c : Char} {m v rest : Text} {vs : List Text} (hmark : mark = c :: m)
    (hc : c ∉ m) (hv : stop ∉ v) (h : Adds mark stop vs (v ++ stop :: rest)) :
    Adds mark stop (v :: vs) (mark ++ (v ++ stop :: rest)) := by
  subst hmark
  intro b
  have hrest := h b
  rw [List.append_assoc, List.cons_append] at hrest
  rw [List.append_assoc, List.append_assoc]
  show valuesAfter (c :: m) stop (c :: m ++ (v ++ stop :: (rest ++ b))) = _
  rw [valuesAfter_mark hc hv, hrest, List.cons_append]

/-- Texts one after the other add what each of them adds. -/
theorem adds_flatMap {β : Type} {f : β → Text} {g : β → List Text} {l : List β}
    (h : ∀ b ∈ l, Adds mark stop (g b) (f b)) : Adds mark stop (l.flatMap g) (l.flatMap f) := by
  induction l with
  | nil => exact adds_nil
  | cons b l ih =>
      rw [List.flatMap_cons, List.flatMap_cons]
      exact (h b (by simp)).append (ih fun c hc => h c (List.mem_cons_of_mem b hc))

/-- A line that adds nothing together with its line end. -/
theorem adds_line {l : Text} (hm : '\n' ∉ mark) (h : ¬ mark <:+: l) :
    Adds mark stop [] (l ++ ['\n']) :=
  adds_of_nowhere (nowhere_append_singleton hm h)

/-! ## Lines put together -/

/-- Lines add certain values, each line its part of them. -/
inductive AddsLines (mark : Text) (stop : Char) : List Text → List Text → Prop where
  | nil : AddsLines mark stop [] []
  | cons {vs ws l ls} : Adds mark stop vs l → AddsLines mark stop ws ls →
      AddsLines mark stop (vs ++ ws) (l :: ls)

namespace AddsLines

theorem single {vs : List Text} {l : Text} (h : Adds mark stop vs l) :
    AddsLines mark stop vs [l] := by
  have := cons h nil
  rwa [List.append_nil] at this

/-- Two lines that add nothing. -/
theorem pair {l m : Text} (hl : Adds mark stop [] l) (hm : Adds mark stop [] m) :
    AddsLines mark stop [] [l, m] :=
  cons hl (single hm)

theorem append {vs ws ls ms : List Text} (hl : AddsLines mark stop vs ls)
    (hm : AddsLines mark stop ws ms) : AddsLines mark stop (vs ++ ws) (ls ++ ms) := by
  induction hl with
  | nil => exact hm
  | cons h _ ih =>
      rw [List.append_assoc]
      exact cons h ih

/-- Lines that add nothing. -/
theorem of_forall {ls : List Text} (h : ∀ l ∈ ls, Adds mark stop [] l) :
    AddsLines mark stop [] ls := by
  induction ls with
  | nil => exact nil
  | cons l ls ih => exact cons (h l (by simp)) (ih fun k hk => h k (List.mem_cons_of_mem l hk))

theorem flatMap {β : Type} {f : β → List Text} {g : β → List Text} {l : List β}
    (h : ∀ b ∈ l, AddsLines mark stop (g b) (f b)) :
    AddsLines mark stop (l.flatMap g) (l.flatMap f) := by
  induction l with
  | nil => exact nil
  | cons b l ih =>
      rw [List.flatMap_cons, List.flatMap_cons]
      exact (h b (by simp)).append (ih fun c hc => h c (List.mem_cons_of_mem b hc))

theorem map {β : Type} {f : β → Text} {g : β → List Text} (h : ∀ b, Adds mark stop (g b) (f b))
    (l : List β) : AddsLines mark stop (l.flatMap g) (l.map f) := by
  induction l with
  | nil => exact nil
  | cons b l ih => exact cons (h b) ih

/-- Lines with an end after each of them add what the lines add. -/
theorem withEnds {lineEnd : Text} (he : Adds mark stop [] lineEnd) {vs ls : List Text}
    (h : AddsLines mark stop vs ls) : Adds mark stop vs (ls.flatMap (· ++ lineEnd)) := by
  induction h with
  | nil => exact adds_nil
  | cons hl _ ih =>
      have hsum := (hl.append he).append ih
      rw [List.append_nil] at hsum
      exact hsum

/-- Joined lines add what the lines add. -/
theorem join {between : Text} (hb : Adds mark stop [] between) {vs ls : List Text}
    (h : AddsLines mark stop vs ls) : Adds mark stop vs (Text.join between ls) := by
  induction h with
  | nil => exact adds_nil
  | @cons vs ws l ls hl hls ih =>
      cases hls with
      | nil =>
          rw [List.append_nil]
          exact hl
      | @cons us xs m ms hm hms =>
          have hsum := (hl.append hb).append ih
          rw [List.append_nil] at hsum
          rw [Text.join]
          · exact hsum
          · exact List.cons_ne_nil m ms

end AddsLines

end Prepress.Markup
