/-
# Reading data back

A reader of the notation in which a listing is written as one object.  It knows strings, truth
values, lists and objects, each with blanks around it (`Data.read?`), and it finds in the object of
a listing what is in the listing (`read?_object`).
-/
import Mathlib.Tactic.SplitIfs
import Prepress.Command.Listing
import Prepress.Proofs.Text.Within
import Prepress.Text.Digit

namespace Prepress.Command

open Text

/-! ## The notation -/

/-- A value of the notation. -/
inductive Data where
  | string (t : Text)
  | truth (b : Bool)
  | list (items : List Data)
  | object (members : List (Text × Data))

/-- The value of the last member of a name. -/
def Data.member? (name : String) : Data → Option Data
  | .object members => (members.reverse.find? (·.1 == name.toList)).map (·.2)
  | _ => none

/-- A blank of the notation. -/
def isGap (c : Char) : Bool := c == ' ' || c == '\n' || c == '\r' || c == '\t'

/-- A text without the blanks that it begins with. -/
def skipGaps (t : Text) : Text := t.dropWhile isGap

/-! ## Strings -/

/-- The character that is escaped by its code in hexadecimal digits. -/
def coded? (digits : Text) : Option Char :=
  if digits.all isHexDigit ∧ (hexToNat digits).isValidChar then
    some (Char.ofNat (hexToNat digits))
  else none

/-- The character that is escaped by a letter or a mark. -/
def escaped? : Char → Option Char
  | '"' => some '"'
  | '\\' => some '\\'
  | '/' => some '/'
  | 'b' => some (Char.ofNat 8)
  | 'f' => some (Char.ofNat 12)
  | 'n' => some '\n'
  | 'r' => some '\r'
  | 't' => some '\t'
  | _ => none

/-- With a character before what has been read. -/
def withChar (c : Char) : Text × Text → Text × Text
  | (read, rest) => (c :: read, rest)

/-- What stands before the next quotation mark, and the rest behind that. -/
def readString : Text → Option (Text × Text)
  | [] => none
  | '"' :: t => some ([], t)
  | '\\' :: 'u' :: a :: b :: c :: d :: t =>
    (coded? [a, b, c, d]).bind fun e => (readString t).map (withChar e)
  | '\\' :: c :: t => (escaped? c).bind fun e => (readString t).map (withChar e)
  | c :: t => if c.toNat < 32 then none else (readString t).map (withChar c)

/-! ## Values -/

section Values

variable {α : Type}

/-- Items with commas between them up to a closing character, at most so many. -/
def readItems (close : Char) (item : Text → Option (α × Text)) :
    (bound : Nat) → Text → Option (List α × Text)
  | 0, _ => none
  | bound + 1, t => do
    let (x, t) ← item t
    match skipGaps t with
    | [] => none
    | c :: t =>
      if c = close then some ([x], t)
      else if c = ',' then (readItems close item bound t).map fun (xs, t) => (x :: xs, t)
      else none

/-- What stands between brackets, behind the opening one. -/
def readBetween (close : Char) (item : Text → Option (α × Text)) (t : Text) :
    Option (List α × Text) :=
  if (skipGaps t).head? = some close then some ([], (skipGaps t).tail)
  else readItems close item t.length t

/-- A member of an object. -/
def readMember (value : Text → Option (α × Text)) (t : Text) : Option ((Text × α) × Text) :=
  match skipGaps t with
  | '"' :: t => do
    let (name, t) ← readString t
    match skipGaps t with
    | ':' :: t => (value t).map fun (v, t) => ((name, v), t)
    | _ => none
  | _ => none

end Values

/-- A value in which lists and objects lie in one another at most so deep. -/
def readValue : (depth : Nat) → Text → Option (Data × Text)
  | 0, _ => none
  | depth + 1, t =>
    match skipGaps t with
    | '"' :: t => (readString t).map fun (s, t) => (.string s, t)
    | '[' :: t => (readBetween ']' (readValue depth) t).map fun (items, t) => (.list items, t)
    | '\x7b' :: t =>
      (readBetween '\x7d' (readMember (readValue depth)) t).map fun (ms, t) => (.object ms, t)
    | 't' :: 'r' :: 'u' :: 'e' :: t => some (.truth true, t)
    | 'f' :: 'a' :: 'l' :: 's' :: 'e' :: t => some (.truth false, t)
    | _ => none

/-- The value that a text writes. -/
def Data.read? (t : Text) : Option Data :=
  match readValue t.length t with
  | some (d, rest) => if rest.all isGap then some d else none
  | none => none

/-! ## Strings that have been written -/

variable {α : Type} {t rest : Text}

/-- A character that is escaped by its code. -/
theorem exists_hexPadded_eq : ∀ n < 32, ∃ a b c d, hexPadded 4 n = [a, b, c, d] ∧
    coded? [a, b, c, d] = some (Char.ofNat n) := by
  have hcodes : ∀ n < 32, (hexPadded 4 n).length = 4 ∧
      coded? (hexPadded 4 n) = some (Char.ofNat n) := by
    decide +kernel
  intro n hn
  obtain ⟨hlength, hcode⟩ := hcodes n hn
  generalize hexPadded 4 n = digits at hlength hcode
  match digits, hlength with
  | [a, b, c, d], _ => exact ⟨a, b, c, d, rfl, hcode⟩

/-- A character that stands for itself. -/
theorem readString_cons {c : Char} (hq : c ≠ '"') (hb : c ≠ '\\') (hc : ¬ c.toNat < 32) (t : Text) :
    readString (c :: t) = (readString t).map (withChar c) := by
  rw [readString]
  · rw [if_neg hc]
  · exact hq
  · exact fun _ _ _ _ _ h => absurd h hb
  · exact fun _ _ h => absurd h hb

/-- A character that is escaped by a letter or a mark. -/
theorem readString_escaped {c e : Char} (he : escaped? c = some e) (hu : c ≠ 'u') (t : Text) :
    readString ('\\' :: c :: t) = (readString t).map (withChar e) := by
  rw [readString, he]
  · rfl
  · exact fun _ _ _ _ _ h => absurd h hu

theorem readString_dataChar (c : Char) (t : Text) :
    readString (dataChar c ++ t) = (readString t).map (withChar c) := by
  rw [dataChar]
  split_ifs with hq hb hn hr ht h8 h12 h32
  · rw [hq]
    exact readString_escaped rfl (by decide) t
  · rw [hb]
    exact readString_escaped rfl (by decide) t
  · rw [hn]
    exact readString_escaped rfl (by decide) t
  · rw [hr]
    exact readString_escaped rfl (by decide) t
  · rw [ht]
    exact readString_escaped rfl (by decide) t
  · rw [← Char.ofNat_toNat c, h8]
    exact readString_escaped rfl (by decide) t
  · rw [← Char.ofNat_toNat c, h12]
    exact readString_escaped rfl (by decide) t
  · obtain ⟨a, b, d, e, hdigits, hcode⟩ := exists_hexPadded_eq c.toNat h32
    rw [hdigits]
    show readString ('\\' :: 'u' :: a :: b :: d :: e :: t) = _
    rw [readString, hcode, Char.ofNat_toNat]
    rfl
  · exact readString_cons hq hb h32 t

theorem readString_dataString (t rest : Text) :
    readString (t.flatMap dataChar ++ '"' :: rest) = some (t, rest) := by
  induction t with
  | nil => rfl
  | cons c t ih =>
      rw [List.flatMap_cons, List.append_assoc, readString_dataChar, ih]
      rfl

/-! ## Values that have been written -/

/-- Blanks of the notation. -/
def IsGap (t : Text) : Prop := Within (fun c => isGap c = true) t

/-- A reader reads a value from a text, with blanks before it and with anything behind it. -/
def Reads (reader : Text → Option (α × Text)) (t : Text) (x : α) : Prop :=
  ∀ gap rest, IsGap gap → reader (gap ++ t ++ rest) = some (x, rest)

theorem skipGaps_append {gap : Text} {c : Char} (hgap : IsGap gap) (hc : isGap c = false)
    (t : Text) : skipGaps (gap ++ c :: t) = c :: t := by
  rw [skipGaps, List.dropWhile_append_of_pos hgap, List.dropWhile_cons_of_neg (by simp [hc])]

/-- The spaces before a line. -/
def spaces (indent : Nat) : Text := List.replicate indent ' '

theorem isGap_line (indent : Nat) : IsGap ('\n' :: spaces indent) := by
  refine within_cons.2 ⟨rfl, fun c hc => ?_⟩
  rw [List.eq_of_mem_replicate hc]
  rfl

section First

variable {gap : Text} (hgap : IsGap gap) (depth : Nat) (t : Text)

include hgap

theorem readValue_quote :
    readValue (depth + 1) (gap ++ '"' :: t)
      = (readString t).map fun (s, t) => (.string s, t) := by
  rw [readValue, skipGaps_append hgap rfl]
  rfl

theorem readValue_bracket :
    readValue (depth + 1) (gap ++ '[' :: t)
      = (readBetween ']' (readValue depth) t).map fun (items, t) => (.list items, t) := by
  rw [readValue, skipGaps_append hgap rfl]
  rfl

theorem readValue_brace :
    readValue (depth + 1) (gap ++ '\x7b' :: t)
      = (readBetween '\x7d' (readMember (readValue depth)) t).map
          fun (ms, t) => (.object ms, t) := by
  rw [readValue, skipGaps_append hgap rfl]
  rfl

theorem readMember_quote (reader : Text → Option (α × Text)) :
    readMember reader (gap ++ '"' :: t)
      = (readString t).bind fun (name, t) =>
        match skipGaps t with
        | ':' :: t => (reader t).map fun (v, t) => ((name, v), t)
        | _ => none := by
  rw [readMember, skipGaps_append hgap rfl]
  rfl

end First

theorem reads_string (depth : Nat) (s : Text) :
    Reads (readValue (depth + 1)) (dataString s) (.string s) := by
  intro gap rest hgap
  have htext : gap ++ dataString s ++ rest = gap ++ '"' :: (s.flatMap dataChar ++ '"' :: rest) := by
    simp [dataString]
  rw [htext, readValue_quote hgap, readString_dataString]
  rfl

theorem reads_truth (depth : Nat) (b : Bool) :
    Reads (readValue (depth + 1)) (if b then "true" else "false").toList (.truth b) := by
  intro gap rest hgap
  rw [readValue, List.append_assoc]
  cases b with
  | true =>
      have hskip := skipGaps_append hgap (show isGap 't' = false by rfl) ('r' :: 'u' :: 'e' :: rest)
      exact hskip ▸ rfl
  | false =>
      have hskip :=
        skipGaps_append hgap (show isGap 'f' = false by rfl) ('a' :: 'l' :: 's' :: 'e' :: rest)
      exact hskip ▸ rfl

theorem reads_member {reader : Text → Option (α × Text)} {v : Text} {x : α} (h : Reads reader v x)
    (name : String) : Reads (readMember reader) (member name v) (name.toList, x) := by
  intro gap rest hgap
  have htext : gap ++ member name v ++ rest
      = gap ++ '"' :: (name.toList.flatMap dataChar ++ '"' :: (':' :: ([' '] ++ v ++ rest))) := by
    simp [member, dataString]
  have hvalue : reader ([' '] ++ v ++ rest) = some (x, rest) :=
    h [' '] rest (within_cons.2 ⟨rfl, within_nil⟩)
  rw [htext, readMember_quote hgap, readString_dataString, Option.bind_some]
  show ((reader ([' '] ++ v ++ rest)).map fun (v, t) => ((name.toList, v), t)) = _
  rw [hvalue]
  rfl

section Sequences

/-- Items on lines of their own, and behind them a closing character on another line. -/
def itemLines (indent : Nat) (close : Char) (rest : Text) : (item : Text) → List Text → Text
  | item, [] => '\n' :: spaces (indent + 2) ++ item ++ ('\n' :: spaces indent ++ close :: rest)
  | item, next :: items =>
    '\n' :: spaces (indent + 2) ++ item ++ ',' :: itemLines indent close rest next items

variable (indent : Nat) (close : Char) (rest item : Text) (items : List Text)

theorem bracketed_append (opening : Char) :
    bracketed opening close indent (item :: items) ++ rest
      = opening :: itemLines indent close rest item items := by
  have hspaces : List.replicate indent ' ' ++ [' ', ' '] = spaces (indent + 2) := by
    show List.replicate indent ' ' ++ List.replicate 2 ' ' = List.replicate (indent + 2) ' '
    exact List.replicate_append_replicate
  have hlines : '\n' :: join [',', '\n'] ((item :: items).map fun t => spaces (indent + 2) ++ t)
      ++ ('\n' :: spaces indent ++ close :: rest) = itemLines indent close rest item items := by
    induction items generalizing item with
    | nil => rfl
    | cons next items ih =>
        rw [itemLines, ← ih, List.map_cons, join_cons _ _ (by simp)]
        simp only [List.append_assoc, List.cons_append, List.nil_append]
  rw [← hlines, bracketed, if_neg (by simp)]
  dsimp only
  rw [hspaces]
  simp only [spaces, List.append_assoc, List.cons_append, List.nil_append]

theorem exists_itemLines_eq : ∃ more,
    itemLines indent close rest item items = '\n' :: spaces (indent + 2) ++ (item ++ more) := by
  cases items with
  | nil => exact ⟨_, by rw [itemLines, List.append_assoc]⟩
  | cons next items => exact ⟨_, by rw [itemLines, List.append_assoc]⟩

theorem length_lt_length_itemLines :
    items.length < (itemLines indent close rest item items).length := by
  induction items generalizing item with
  | nil =>
      rw [itemLines, List.cons_append]
      exact Nat.succ_pos _
  | cons next items ih =>
      have hrest := ih next
      rw [itemLines, List.length_append, List.length_cons, List.length_cons]
      omega

variable {reader : Text → Option (α × Text)} {close}

/-- Items on lines of their own are read one by one. -/
theorem readItems_itemLines (hclose : isGap close = false ∧ close ≠ ',') {p : Text × α}
    {ps : List (Text × α)} (h : ∀ q ∈ p :: ps, Reads reader q.1 q.2) {bound : Nat}
    (hbound : ps.length < bound) :
    readItems close reader bound (itemLines indent close rest p.1 (ps.map (·.1)))
      = some (p.2 :: ps.map (·.2), rest) := by
  induction ps generalizing p bound with
  | nil =>
      obtain ⟨bound, rfl⟩ := Nat.exists_eq_add_one_of_ne_zero (Nat.ne_of_gt hbound)
      rw [List.map_nil, itemLines, readItems,
        h p List.mem_cons_self _ _ (isGap_line (indent + 2))]
      show (match skipGaps ('\n' :: spaces indent ++ close :: rest) with
        | [] => none
        | c :: t => _) = _
      rw [skipGaps_append (isGap_line indent) hclose.1]
      exact if_pos rfl
  | cons q ps ih =>
      obtain ⟨bound, rfl⟩ :=
        Nat.exists_eq_add_one_of_ne_zero (Nat.ne_of_gt (Nat.zero_lt_of_lt hbound))
      have hrest := ih (fun q hq => h q (List.mem_cons_of_mem p hq)) (Nat.lt_of_succ_lt_succ hbound)
      rw [List.map_cons, itemLines, readItems,
        h p List.mem_cons_self _ _ (isGap_line (indent + 2))]
      show (if ',' = close then _ else if ',' = ',' then _ else _) = _
      rw [if_neg hclose.2.symm, if_pos rfl, hrest]
      rfl

/-- What is written between brackets is read again. -/
theorem readBetween_bracketed (hclose : isGap close = false ∧ close ≠ ',' ∧ close ≠ '"')
    {ps : List (Text × α)} (h : ∀ p ∈ ps, p.1.head? = some '"' ∧ Reads reader p.1 p.2)
    (opening : Char) :
    ∃ body, bracketed opening close indent (ps.map (·.1)) ++ rest = opening :: body ∧
      readBetween close reader body = some (ps.map (·.2), rest) := by
  obtain ⟨hgap, hcomma, hquote⟩ := hclose
  cases ps with
  | nil =>
      refine ⟨close :: rest, rfl, ?_⟩
      have hskip : skipGaps (close :: rest) = close :: rest := skipGaps_append within_nil hgap rest
      rw [readBetween, hskip, List.head?_cons, if_pos rfl]
      rfl
  | cons p ps =>
      refine ⟨itemLines indent close rest p.1 (ps.map (·.1)), ?_, ?_⟩
      · rw [List.map_cons, bracketed_append]
      · -- the first item begins with a quotation mark, so the bracket is not closed at once
        obtain ⟨q, hq⟩ := List.head?_eq_some_iff.1 (h p List.mem_cons_self).1
        obtain ⟨more, hmore⟩ := exists_itemLines_eq indent close rest p.1 (ps.map (·.1))
        have hskip :
            (skipGaps (itemLines indent close rest p.1 (ps.map (·.1)))).head? = some '"' := by
          rw [hmore, hq]
          show (skipGaps ('\n' :: spaces (indent + 2) ++ '"' :: (q ++ more))).head? = some '"'
          rw [skipGaps_append (isGap_line (indent + 2)) rfl]
          rfl
        have hlength := length_lt_length_itemLines indent close rest p.1 (ps.map (·.1))
        rw [List.length_map] at hlength
        rw [readBetween, hskip, if_neg (by simpa using hquote.symm)]
        exact readItems_itemLines indent rest ⟨hgap, hcomma⟩ (fun q hq => (h q hq).2) hlength

end Sequences

/-! ## Listings -/

/-- What is in a listing, as a value. -/
def Listing.data (l : Listing) : Data :=
  .object
    [("file".toList, .string l.file), ("has_signature_blocks".toList, .truth l.hasBlocks),
      ("fields".toList, .list (l.fields.map .string)),
      ("duplicates".toList, .list (l.duplicates.map .string))]

theorem reads_stringList (depth : Nat) (ts : List Text) :
    Reads (readValue (depth + 2)) (stringList ts) (.list (ts.map .string)) := by
  intro gap rest hgap
  have hparts : ∀ p ∈ ts.map fun t => (dataString t, Data.string t),
      p.1.head? = some '"' ∧ Reads (readValue (depth + 1)) p.1 p.2 := by
    intro p hp
    obtain ⟨t, -, rfl⟩ := List.mem_map.1 hp
    exact ⟨rfl, reads_string depth t⟩
  have hclose : isGap ']' = false ∧ ']' ≠ ',' ∧ ']' ≠ '"' := by decide
  obtain ⟨body, hbody, hread⟩ := readBetween_bracketed 2 rest hclose hparts '['
  rw [List.map_map] at hbody hread
  rw [List.append_assoc, show stringList ts ++ rest = '[' :: body from hbody,
    readValue_bracket hgap, hread]
  rfl

/-- The object of a listing is read as what is in the listing. -/
theorem read?_object (l : Listing) : Data.read? (l.object ++ ['\n']) = some l.data := by
  have hparts (depth : Nat) : ∀ p ∈
      [(member "file" (dataString l.file), ("file".toList, Data.string l.file)),
        (member "has_signature_blocks" (if l.hasBlocks then "true" else "false").toList,
          ("has_signature_blocks".toList, .truth l.hasBlocks)),
        (member "fields" (stringList l.fields), ("fields".toList, .list (l.fields.map .string))),
        (member "duplicates" (stringList l.duplicates),
          ("duplicates".toList, .list (l.duplicates.map .string)))],
      p.1.head? = some '"' ∧ Reads (readMember (readValue (depth + 2))) p.1 p.2 := by
    simp only [List.forall_mem_cons]
    exact ⟨⟨rfl, reads_member (reads_string _ _) _⟩, ⟨rfl, reads_member (reads_truth _ _) _⟩,
      ⟨rfl, reads_member (reads_stringList depth _) _⟩,
      ⟨rfl, reads_member (reads_stringList depth _) _⟩, by simp⟩
  have hclose : isGap '\x7d' = false ∧ '\x7d' ≠ ',' ∧ '\x7d' ≠ '"' := by decide
  obtain ⟨depth, hdepth⟩ : ∃ depth, (l.object ++ ['\n']).length = depth + 3 := by
    refine Nat.exists_eq_add_of_le' ?_
    simp only [Listing.object, bracketed, List.isEmpty_cons, Bool.false_eq_true, if_false,
      List.length_append, List.length_cons]
    omega
  obtain ⟨body, hbody, hread⟩ := readBetween_bracketed 0 ['\n'] hclose (hparts depth) '\x7b'
  have hvalue : readValue (depth + 3) (l.object ++ ['\n']) = some (l.data, ['\n']) := by
    rw [show l.object ++ ['\n'] = [] ++ '\x7b' :: body from hbody, readValue_brace within_nil,
      hread]
    rfl
  rw [Data.read?, hdepth, hvalue]
  rfl

end Prepress.Command
