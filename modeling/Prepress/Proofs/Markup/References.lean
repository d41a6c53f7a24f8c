/-
# Reading character references

A reader of markup puts characters in the place of references: `&`, a name or a number, and a
semicolon that may be missing.  Which names are known, and what they and the numbers stand for, is
a table of the reader (`References`).  Every reader that knows the five references of escaped
texts reads an escaped text as the text that was escaped (`decode_escape`).
-/
import Prepress.Markup
import Prepress.Proofs.Text.Within
import Prepress.Text.Digit

namespace Prepress.Markup

open Text

/-! ## Escaped texts -/

/-- The five characters that are escaped, with their references. -/
def escapes : List (Char × Text) :=
  [('&', "&amp;".toList), ('<', "&lt;".toList), ('>', "&gt;".toList), ('"', "&quot;".toList),
    (Char.ofNat 0x27, "&#x27;".toList)]

/-- A character is escaped with its reference, or it is kept. -/
theorem escapeChar_cases (c : Char) :
    (c, escapeChar c) ∈ escapes ∨ (escapeChar c = [c] ∧ c ∉ ['&', '<', '>', '"']) := by
  by_cases h : c ∈ ['&', '<', '>', '"', Char.ofNat 0x27]
  · left
    revert h
    revert c
    decide
  · right
    simp only [List.mem_cons, List.not_mem_nil, or_false, not_or] at h ⊢
    obtain ⟨h1, h2, h3, h4, h5⟩ := h
    have h6 : ¬ c.toNat = 0x27 := fun he => h5 (by rw [← he, Char.ofNat_toNat])
    rw [escapeChar, if_neg h1, if_neg h2, if_neg h3, if_neg h4, if_neg h6]
    exact ⟨rfl, h1, h2, h3, h4⟩

/-- Escaping brings in plain characters only. -/
theorem within_escape {P : Char → Prop} (hP : ∀ c, IsPlain c → P c) {t : Text}
    (h : Within P t) : Within P (escape t) := by
  have hplain : ∀ s ∈ escapes, ∀ d ∈ s.2, IsPlain d := by decide
  refine within_flatMap ?_
  intro c hc
  rcases escapeChar_cases c with hs | ⟨hs, -⟩
  · exact fun d hd => hP d (hplain _ hs d hd)
  · rw [hs]
    exact within_cons.2 ⟨h c hc, within_nil⟩

/-- An escaped text has no angle bracket and no quotation mark. -/
theorem not_mem_escape {c : Char} (hc : c ∈ ['<', '>', '"']) (t : Text) : c ∉ escape t := by
  have hnone : ∀ s ∈ escapes, ∀ d ∈ ['<', '>', '"'], d ∉ s.2 := by decide
  intro h
  obtain ⟨d, -, hd⟩ := List.mem_flatMap.1 h
  rcases escapeChar_cases d with hs | ⟨hs, hn⟩
  · exact hnone _ hs c hc hd
  · rw [hs, List.mem_singleton] at hd
    rw [← hd] at hn
    exact hn (List.mem_cons_of_mem '&' hc)

/-! ## Readers -/

/-- What a reader takes references for: the names that it knows, written with their semicolon if
they have one, and the numbers. -/
structure References where
  named : Text → Option Text
  numbered : Nat → Text
  named_amp : named "amp;".toList = some ['&']
  named_lt : named "lt;".toList = some ['<']
  named_gt : named "gt;".toList = some ['>']
  named_quot : named "quot;".toList = some ['"']
  numbered_apostrophe : numbered 0x27 = [Char.ofNat 0x27]

/-- The reader that knows some names besides those of escaped texts, and that takes a number for a
code point. -/
def References.ofNames (names : List (Text × Text)) : References where
  named s :=
    (([("amp;".toList, ['&']), ("lt;".toList, ['<']), ("gt;".toList, ['>']),
      ("quot;".toList, ['"'])] ++ names).find? (·.1 == s)).map (·.2)
  numbered n := [Char.ofNat n]
  named_amp := rfl
  named_lt := rfl
  named_gt := rfl
  named_quot := rfl
  numbered_apostrophe := rfl

/-- A run of characters, and a semicolon if one follows it. -/
def withSemicolon (run rest : Text) : Text :=
  if rest.head? = some ';' then run ++ [';'] else run

/-- The digits at the beginning of a text, with a semicolon if one follows them. -/
def numeral? (digit : Char → Bool) (t : Text) : Option (Text × Text) :=
  if t.takeWhile digit = [] then none
  else some (t.takeWhile digit, withSemicolon (t.takeWhile digit) (t.dropWhile digit))

/-- Whether a character may stand in the name of a reference. -/
def isNameChar (c : Char) : Bool :=
  c ∉ ['\t', '\n', Char.ofNat 0x0C, ' ', '<', '&', '#', ';']

/-- The name at the beginning of a text, of thirty-two characters at most, with a semicolon if one
follows it. -/
def name (t : Text) : Text :=
  let run := (t.take 32).takeWhile isNameChar
  withSemicolon run (t.drop run.length)

namespace References

variable (refs : References)

/-- The reading of a name that is not known: its longest beginning that is known counts, of two
characters at least, and without one the name stays as it is. -/
def readBeginning (s : Text) : Nat → Text
  | n + 2 =>
    match refs.named (s.take (n + 2)) with
    | some meaning => meaning ++ s.drop (n + 2)
    | none => readBeginning s (n + 1)
  | _ => '&' :: s

/-- The reading of a name. -/
def readName (s : Text) : Text := (refs.named s).getD (refs.readBeginning s (s.length - 1))

/-- The reading of the reference that a text begins with after its `&`, and the number of
characters that it takes. -/
def read? : Text → Option (Text × Nat)
  | '#' :: 'x' :: t | '#' :: 'X' :: t =>
    (numeral? isHexDigit t).map fun (digits, all) =>
      (refs.numbered (hexToNat digits), all.length + 2)
  | '#' :: t =>
    (numeral? Char.isDigit t).map fun (digits, all) =>
      (refs.numbered (digitsToNat digits), all.length + 1)
  | t => if name t = [] then none else some (refs.readName (name t), (name t).length)

/-- Reads the references after the next `skip` characters. -/
def decodeFrom : (skip : Nat) → Text → Text
  | _, [] => []
  | skip + 1, _ :: t => decodeFrom skip t
  | 0, c :: t =>
    if c = '&' then
      match refs.read? t with
      | some (meaning, used) => meaning ++ decodeFrom used t
      | none => c :: decodeFrom 0 t
    else c :: decodeFrom 0 t

/-- A text with its references read. -/
def decode (t : Text) : Text := refs.decodeFrom 0 t

/-! ## Reading an escaped text -/

theorem decodeFrom_append (a t : Text) : refs.decodeFrom a.length (a ++ t) = refs.decode t := by
  induction a with
  | nil => rfl
  | cons c a ih => exact ih

/-- A reference that takes its whole text is read, whatever follows. -/
theorem decode_reference {r meaning t : Text} (h : refs.read? (r ++ t) = some (meaning, r.length)) :
    refs.decode ('&' :: r ++ t) = meaning ++ refs.decode t := by
  rw [List.cons_append, decode, decodeFrom, if_pos rfl, h]
  show meaning ++ refs.decodeFrom r.length (r ++ t) = _
  rw [decodeFrom_append]

theorem decode_cons {c : Char} (hc : c ≠ '&') (t : Text) :
    refs.decode (c :: t) = c :: refs.decode t := by
  rw [decode, decodeFrom, if_neg hc]
  rfl

/-- A name with its semicolon is read as the table has it. -/
theorem read?_named {run meaning : Text} (t : Text) (hrun : run ≠ [])
    (hlen : run.length ≤ 31) (hchars : ∀ c ∈ run, isNameChar c = true)
    (h : refs.named (run ++ [';']) = some meaning) :
    refs.read? (run ++ [';'] ++ t) = some (meaning, (run ++ [';']).length) := by
  have htake : ((run ++ [';'] ++ t).take 32).takeWhile isNameChar = run := by
    rw [List.append_assoc, List.take_append, List.take_of_length_le (by omega)]
    obtain ⟨n, hn⟩ : ∃ n, 32 - run.length = n + 1 := ⟨31 - run.length, by omega⟩
    rw [hn, List.singleton_append, List.take_succ_cons, List.takeWhile_append_of_pos hchars,
      List.takeWhile_cons_of_neg (by decide), List.append_nil]
  have hname : name (run ++ [';'] ++ t) = run ++ [';'] := by
    rw [name, htake, withSemicolon, List.append_assoc, List.drop_left]
    rfl
  have hread : refs.readName (run ++ [';']) = meaning := by
    rw [readName, h, Option.getD_some]
  cases run with
  | nil => exact absurd rfl hrun
  | cons c run =>
      have hc : c ≠ '#' := by
        intro he
        have := hchars c (by simp)
        rw [he] at this
        exact absurd this (by decide)
      rw [read?, hname, hread, if_neg (by simp)]
      all_goals simp [hc]

/-- The references of escaped texts are read back. -/
theorem decode_escapes {e : Char × Text} (he : e ∈ escapes) (t : Text) :
    refs.decode (e.2 ++ t) = e.1 :: refs.decode t := by
  have hnamed : ∀ (run : Text) (c : Char), run ≠ [] → run.length ≤ 31 →
      (∀ d ∈ run, isNameChar d = true) → refs.named (run ++ [';']) = some [c] →
      refs.decode ('&' :: (run ++ [';']) ++ t) = c :: refs.decode t := by
    intro run c h1 h2 h3 h4
    exact refs.decode_reference (refs.read?_named t h1 h2 h3 h4)
  have hnumber : refs.read? ("#x27;".toList ++ t) = some ([Char.ofNat 0x27], 5) := by
    rw [← refs.numbered_apostrophe]
    rfl
  revert he
  revert e
  simp only [escapes, List.forall_mem_cons]
  refine ⟨?_, ?_, ?_, ?_, ?_, by simp⟩
  · exact hnamed "amp".toList '&' (by decide) (by decide) (by decide) refs.named_amp
  · exact hnamed "lt".toList '<' (by decide) (by decide) (by decide) refs.named_lt
  · exact hnamed "gt".toList '>' (by decide) (by decide) (by decide) refs.named_gt
  · exact hnamed "quot".toList '"' (by decide) (by decide) (by decide) refs.named_quot
  · exact refs.decode_reference (r := "#x27;".toList) hnumber

theorem decode_escapeChar (c : Char) (t : Text) :
    refs.decode (escapeChar c ++ t) = c :: refs.decode t := by
  rcases escapeChar_cases c with hs | ⟨hs, hn⟩
  · exact refs.decode_escapes hs t
  · rw [hs, List.singleton_append, refs.decode_cons (fun he => hn (by rw [he]; simp))]

/-- Every reader reads an escaped text as the text that was escaped. -/
theorem decode_escape (t : Text) : refs.decode (escape t) = t := by
  induction t with
  | nil => rfl
  | cons c t ih =>
      rw [escape, List.flatMap_cons, decode_escapeChar]
      show c :: refs.decode (escape t) = c :: t
      rw [ih]

end References

end Prepress.Markup
