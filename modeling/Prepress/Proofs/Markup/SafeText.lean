/-
# Reading a safe text

No reference is shorter than what a reader puts in its place (`length_decode_le`), and none reaches
over the `&` of the next one (`decode_append_cons`).  So a reader that knows the references of the
surface shortens the safe form of every text with a character that the surface refers to:

* `decode_sanitize_ne` : reading the references of such a safe form changes it.
-/
import Prepress.Proofs.Markup.References
import Prepress.Proofs.Surface

namespace Prepress.Markup

open Text

/-! ## Runs before a mark -/

theorem takeWhile_append_cons {p : Char → Bool} {c : Char} (hc : p c = false) (a s : Text) :
    (a ++ c :: s).takeWhile p = a.takeWhile p := by
  induction a with
  | nil => exact List.takeWhile_cons_of_neg (by simp [hc])
  | cons d a ih =>
      rw [List.cons_append, List.takeWhile_cons, List.takeWhile_cons, ih]

theorem dropWhile_append_cons {p : Char → Bool} {c : Char} (hc : p c = false) (a s : Text) :
    (a ++ c :: s).dropWhile p = a.dropWhile p ++ c :: s := by
  induction a with
  | nil => exact List.dropWhile_cons_of_neg (by simp [hc])
  | cons d a ih =>
      rw [List.cons_append, List.dropWhile_cons, List.dropWhile_cons, ih]
      split <;> rfl

/-- A semicolon that follows a run stands before the next mark. -/
theorem withSemicolon_append_cons {c : Char} (hc : c ≠ ';') (run a s : Text) :
    withSemicolon run (a ++ c :: s) = withSemicolon run a := by
  cases a with
  | nil =>
      rw [withSemicolon, withSemicolon, List.nil_append, if_neg (by simpa using hc),
        if_neg (by simp)]
  | cons d a => rfl

theorem withSemicolon_isPrefix (run rest : Text) : withSemicolon run rest <+: run ++ rest := by
  rw [withSemicolon]
  split
  · next h =>
      obtain ⟨t, rfl⟩ := List.head?_eq_some_iff.1 h
      exact ⟨t, by rw [List.append_assoc, List.singleton_append]⟩
  · exact List.prefix_append run rest

/-- A numeral ends before the next `&`. -/
theorem numeral?_append_cons {digit : Char → Bool} (hd : digit '&' = false) (a s : Text) :
    numeral? digit (a ++ '&' :: s) = numeral? digit a := by
  rw [numeral?, numeral?, takeWhile_append_cons hd, dropWhile_append_cons hd,
    withSemicolon_append_cons (by decide)]

theorem name_append_cons (a s : Text) : name (a ++ '&' :: s) = name a := by
  have hrun : ((a ++ '&' :: s).take 32).takeWhile isNameChar
      = (a.take 32).takeWhile isNameChar := by
    rw [List.take_append]
    cases 32 - a.length with
    | zero => rw [List.take_zero, List.append_nil]
    | succ n => rw [List.take_succ_cons, takeWhile_append_cons (by decide)]
  have hlen : ((a.take 32).takeWhile isNameChar).length ≤ a.length :=
    ((List.takeWhile_prefix _).trans (List.take_prefix 32 a)).length_le
  rw [name, name, hrun, List.drop_append_of_le_length hlen, withSemicolon_append_cons (by decide)]

theorem length_le_of_numeral? {digit : Char → Bool} {t digits all : Text}
    (h : numeral? digit t = some (digits, all)) : all.length ≤ t.length := by
  rw [numeral?] at h
  split at h
  · simp at h
  · cases h
    have hp := withSemicolon_isPrefix (t.takeWhile digit) (t.dropWhile digit)
    rw [List.takeWhile_append_dropWhile] at hp
    exact hp.length_le

theorem name_isPrefix (t : Text) : name t <+: t := by
  have hrun : (t.take 32).takeWhile isNameChar <+: t :=
    (List.takeWhile_prefix _).trans (List.take_prefix 32 t)
  have hp := withSemicolon_isPrefix ((t.take 32).takeWhile isNameChar)
    (t.drop ((t.take 32).takeWhile isNameChar).length)
  rw [List.prefix_iff_eq_append.1 hrun] at hp
  exact hp

namespace References

variable (refs : References)

/-- Without a number sign, a name is read. -/
theorem read?_of_head_ne {t : Text} (h : t.head? ≠ some '#') :
    refs.read? t
      = if name t = [] then none else some (refs.readName (name t), (name t).length) := by
  have hne : ∀ s, t ≠ '#' :: s := fun s hs => h (by rw [hs]; rfl)
  rw [read?]
  · exact fun s => hne _
  · exact fun s => hne _
  · exact hne

/-- With a number sign and no letter after it, a decimal numeral is read. -/
theorem read?_decimal {t : Text} (hx : t.head? ≠ some 'x') (hX : t.head? ≠ some 'X') :
    refs.read? ('#' :: t) = (numeral? Char.isDigit t).map fun (digits, all) =>
      (refs.numbered (digitsToNat digits), all.length + 1) := by
  rw [read?]
  · exact fun s hs => hx (by rw [hs]; rfl)
  · exact fun s hs => hX (by rw [hs]; rfl)

/-- No reference reaches over the `&` of the next one. -/
theorem read?_append_cons (a s : Text) : refs.read? (a ++ '&' :: s) = refs.read? a := by
  by_cases hnumber : a.head? = some '#'
  · obtain ⟨b, rfl⟩ := List.head?_eq_some_iff.1 hnumber
    by_cases hx : b.head? = some 'x'
    · obtain ⟨d, rfl⟩ := List.head?_eq_some_iff.1 hx
      show (numeral? isHexDigit (d ++ '&' :: s)).map _ = (numeral? isHexDigit d).map _
      rw [numeral?_append_cons (by decide)]
    · by_cases hX : b.head? = some 'X'
      · obtain ⟨d, rfl⟩ := List.head?_eq_some_iff.1 hX
        show (numeral? isHexDigit (d ++ '&' :: s)).map _ = (numeral? isHexDigit d).map _
        rw [numeral?_append_cons (by decide)]
      · have hhead : ∀ c, b.head? ≠ some c → c ≠ '&' → (b ++ '&' :: s).head? ≠ some c := by
          intro c hb hc
          cases b with
          | nil => simpa using hc.symm
          | cons d b => exact hb
        rw [List.cons_append,
          refs.read?_decimal (hhead 'x' hx (by decide)) (hhead 'X' hX (by decide)),
          refs.read?_decimal hx hX, numeral?_append_cons (by decide)]
  · have hhead : (a ++ '&' :: s).head? ≠ some '#' := by
      cases a with
      | nil => simp
      | cons d a => exact hnumber
    rw [refs.read?_of_head_ne hhead, refs.read?_of_head_ne hnumber, name_append_cons]

/-- A reference is a name or a numeral, and takes no more than there is. -/
theorem read?_cases {t meaning : Text} {used : Nat} (h : refs.read? t = some (meaning, used)) :
    used ≤ t.length ∧
      ((∃ n, meaning = refs.numbered n) ∨ ∃ s, meaning = refs.readName s ∧ s.length = used) := by
  have hnumeral : ∀ (digit : Char → Bool) (number : Text → Nat) (k : Nat) (s : Text),
      (numeral? digit s).map (fun (digits, all) => (refs.numbered (number digits), all.length + k))
        = some (meaning, used) →
      used ≤ s.length + k ∧ ∃ n, meaning = refs.numbered n := by
    intro digit number k s hs
    obtain ⟨⟨digits, all⟩, hn, he⟩ := Option.map_eq_some_iff.1 hs
    have hlen := length_le_of_numeral? hn
    cases he
    exact ⟨Nat.add_le_add_right hlen k, _, rfl⟩
  unfold read? at h
  split at h
  · exact (hnumeral _ _ _ _ h).imp_right Or.inl
  · exact (hnumeral _ _ _ _ h).imp_right Or.inl
  · exact (hnumeral _ _ _ _ h).imp_right Or.inl
  · split at h
    · simp at h
    · cases h
      exact ⟨(name_isPrefix t).length_le, Or.inr ⟨_, rfl, rfl⟩⟩

/-- Texts are read up to an `&`, and from there on. -/
theorem decodeFrom_append_cons (skip : Nat) {a : Text} (h : skip ≤ a.length) (s : Text) :
    refs.decodeFrom skip (a ++ '&' :: s) = refs.decodeFrom skip a ++ refs.decode ('&' :: s) := by
  -- characters that a reference has taken are skipped; none of them lies beyond the text `a`
  induction a generalizing skip with
  | nil =>
      rw [Nat.le_zero.1 h]
      rfl
  | cons c a ih =>
      cases skip with
      | succ skip => exact ih skip (Nat.le_of_succ_le_succ h)
      | zero =>
          rw [List.cons_append, decodeFrom, decodeFrom, refs.read?_append_cons]
          split
          · cases hr : refs.read? a with
            | none =>
                dsimp only
                rw [ih 0 (Nat.zero_le _), List.cons_append]
            | some r =>
                obtain ⟨meaning, used⟩ := r
                dsimp only
                rw [ih used (refs.read?_cases hr).1, List.append_assoc]
          · rw [ih 0 (Nat.zero_le _), List.cons_append]

theorem decode_append_cons (a s : Text) :
    refs.decode (a ++ '&' :: s) = refs.decode a ++ refs.decode ('&' :: s) :=
  refs.decodeFrom_append_cons 0 (Nat.zero_le _) s

/-! ## Lengths -/

/-- A reader that knows the references of the surface, and that puts nothing longer in the place of
a reference. -/
structure ReadsSurface : Prop where
  named_length : ∀ s meaning, refs.named s = some meaning → meaning.length ≤ s.length
  numbered_length : ∀ n, (refs.numbered n).length ≤ 1
  named_symbols : ∀ s ∈ Surface.symbols, s.2.head? = some '&' →
    (refs.named (s.2.drop 1)).isSome = true

variable {refs} (hr : refs.ReadsSurface)

include hr

theorem length_readBeginning_le (s : Text) {n : Nat} (hn : n ≤ s.length) :
    (refs.readBeginning s n).length ≤ s.length + 1 := by
  fun_induction readBeginning refs s n with
  | case1 n meaning h =>
      have hlen := hr.named_length _ _ h
      rw [List.length_take] at hlen
      rw [List.length_append, List.length_drop]
      omega
  | case2 n h ih => exact ih (by omega)
  | case3 n h => exact Nat.le_refl _

theorem length_readName_le (s : Text) : (refs.readName s).length ≤ s.length + 1 := by
  rw [readName]
  cases h : refs.named s with
  | none => exact length_readBeginning_le hr s (Nat.sub_le _ 1)
  | some meaning => exact Nat.le_succ_of_le (hr.named_length s meaning h)

/-- What is read from the part of a text that is left is no longer than the part. -/
theorem length_decodeFrom_le (skip : Nat) (t : Text) :
    (refs.decodeFrom skip t).length ≤ t.length - skip := by
  induction t generalizing skip with
  | nil =>
      rw [decodeFrom]
      exact Nat.zero_le _
  | cons c t ih =>
      cases skip with
      | succ skip =>
          rw [decodeFrom, List.length_cons, Nat.add_sub_add_right]
          exact ih skip
      | zero =>
          have hrest := ih 0
          rw [decodeFrom]
          split
          · cases h : refs.read? t with
            | none =>
                dsimp only
                rw [List.length_cons, List.length_cons]
                omega
            | some r =>
                obtain ⟨meaning, used⟩ := r
                have hafter := ih used
                obtain ⟨hused, hmeaning⟩ := refs.read?_cases h
                -- the reference takes its characters and the `&` before them
                have hlen : meaning.length ≤ used + 1 := by
                  rcases hmeaning with ⟨n, rfl⟩ | ⟨s, rfl, rfl⟩
                  · have := hr.numbered_length n
                    omega
                  · exact length_readName_le hr s
                dsimp only
                rw [List.length_append, List.length_cons]
                omega
          · rw [List.length_cons, List.length_cons]
            omega

/-- Reading references does not make a text longer. -/
theorem length_decode_le (t : Text) : (refs.decode t).length ≤ t.length :=
  length_decodeFrom_le hr 0 t

end References

/-! ## References of the surface -/

/-- The surface refers to a character: it writes a reference in its place. -/
def IsReferred (c : Char) : Prop :=
  Surface.isSafe c = false ∧ (Surface.safeForm c).head? = some '&'

instance (c : Char) : Decidable (IsReferred c) := by
  unfold IsReferred
  infer_instance

/-- The references of the table are names with a semicolon. -/
theorem symbols_named {s : Char × Text} (hs : s ∈ Surface.symbols) (h : s.2.head? = some '&') :
    ∃ run, s.2 = '&' :: (run ++ [';']) ∧ run ≠ [] ∧ run.length ≤ 31 ∧
      ∀ c ∈ run, isNameChar c = true := by
  have htable : ∀ s ∈ Surface.symbols, s.2.head? = some '&' →
      s.2 = '&' :: ((s.2.drop 1).dropLast ++ [';']) ∧ (s.2.drop 1).dropLast ≠ [] ∧
        (s.2.drop 1).dropLast.length ≤ 31 ∧ ∀ c ∈ (s.2.drop 1).dropLast, isNameChar c = true := by
    decide +kernel
  exact ⟨_, htable s hs h⟩

namespace References

/-- The reader that knows the references of the surface, besides those of escaped texts. -/
def ofSurface : References :=
  .ofNames ((Surface.symbols.filter (·.2.head? == some '&')).map fun s => (s.2.drop 1, [s.1]))

theorem readsSurface_ofSurface : ofSurface.ReadsSurface where
  named_length := by
    have htable : ∀ e ∈ [("amp;".toList, ['&']), ("lt;".toList, ['<']), ("gt;".toList, ['>']),
        ("quot;".toList, ['"'])] ++
          (Surface.symbols.filter (·.2.head? == some '&')).map fun s => (s.2.drop 1, [s.1]),
        e.2.length ≤ e.1.length := by
      decide +kernel
    intro s meaning h
    obtain ⟨e, he, rfl⟩ := Option.map_eq_some_iff.1 h
    have hs : e.1 = s := by simpa using List.find?_some he
    rw [← hs]
    exact htable e (List.mem_of_find?_eq_some he)
  numbered_length := fun n => Nat.le_refl 1
  named_symbols := by decide +kernel

variable {refs : References}

/-- A decimal numeral with its semicolon is read as its number. -/
theorem read?_ofNat (n : Nat) (t : Text) :
    refs.read? ('#' :: (ofNat n ++ [';']) ++ t)
      = some (refs.numbered (digitsToNat (ofNat n)), ('#' :: (ofNat n ++ [';'])).length) := by
  have hdigits : ∀ c ∈ ofNat n, c.isDigit = true := fun c hc => isDigit_of_mem_ofNat hc
  have hne : ofNat n ≠ [] := Nat.toDigits_ne_nil
  have hhead : ∀ c, c.isDigit = false → (ofNat n ++ [';'] ++ t).head? ≠ some c := by
    intro c hc he
    obtain ⟨d, s, hs⟩ := List.exists_cons_of_ne_nil hne
    have hd := hdigits d (by simp [hs])
    rw [hs, List.cons_append, List.cons_append, List.head?_cons, Option.some.injEq] at he
    rw [he, hc] at hd
    simp at hd
  have hrest : ofNat n ++ [';'] ++ t = ofNat n ++ ';' :: t := by simp
  rw [List.cons_append, refs.read?_decimal (hhead 'x' (by decide)) (hhead 'X' (by decide)), hrest,
    numeral?, List.takeWhile_append_of_pos hdigits, List.takeWhile_cons_of_neg (by decide),
    List.append_nil, if_neg hne, List.dropWhile_append_of_pos hdigits,
    List.dropWhile_cons_of_neg (by decide)]
  rfl

variable (hr : refs.ReadsSurface)

include hr

/-- A reference of the surface is read as something shorter. -/
theorem length_decode_safeForm_lt {c : Char} (hc : IsReferred c) (t : Text) :
    (refs.decode (Surface.safeForm c ++ t)).length < (Surface.safeForm c ++ t).length := by
  have hrest := length_decode_le hr t
  obtain ⟨hsafe, hhead⟩ := hc
  rw [Surface.safeForm] at hhead ⊢
  split at hhead
  · -- a name of the table
    next s hs =>
      have hmem := List.mem_of_find?_eq_some hs
      obtain ⟨run, hform, hrun, hlen, hchars⟩ := symbols_named hmem hhead
      obtain ⟨meaning, hnamed⟩ := Option.isSome_iff_exists.1 (hr.named_symbols s hmem hhead)
      have hshort := hr.named_length _ _ hnamed
      rw [hform, List.drop_one, List.tail_cons] at hnamed hshort
      have hread := refs.decode_reference (refs.read?_named t hrun hlen hchars hnamed)
      rw [hform, hread, List.length_append, List.length_append, List.length_cons]
      omega
  · -- a number
    rw [Surface.reference] at hhead ⊢
    split at hhead
    · next hbeyond =>
        have hread := refs.decode_reference (refs.read?_ofNat c.toNat t)
        have hshort := hr.numbered_length (digitsToNat (ofNat c.toNat))
        rw [if_pos hbeyond]
        show (refs.decode ('&' :: ('#' :: (ofNat c.toNat ++ [';'])) ++ t)).length
          < ('&' :: ('#' :: (ofNat c.toNat ++ [';'])) ++ t).length
        rw [hread, List.length_append, List.length_append, List.length_cons, List.length_cons]
        omega
    -- an `&` stands for itself, and is safe
    · have hc : c = '&' := by simpa using hhead
      rw [hc] at hsafe
      exact absurd hsafe (by decide)

/-- Reading references changes a safe form with a reference of the surface in it. -/
theorem decode_sanitize_ne {t : Text} (h : ∃ c ∈ t, IsReferred c) :
    refs.decode (Surface.sanitize t) ≠ Surface.sanitize t := by
  obtain ⟨c, hmem, hc⟩ := h
  obtain ⟨a, b, rfl⟩ := List.append_of_mem hmem
  have hsplit : Surface.sanitize (a ++ c :: b)
      = Surface.sanitize a ++ (Surface.safeForm c ++ Surface.sanitize b) := by
    rw [Surface.sanitize_append, ← List.singleton_append, Surface.sanitize_append,
      Surface.sanitize_singleton]
  -- the form of the character gets shorter, and nothing before it or after it gets longer
  have hlt := length_decode_safeForm_lt hr hc (Surface.sanitize b)
  have hle := length_decode_le hr (Surface.sanitize a)
  obtain ⟨r, hform⟩ := List.head?_eq_some_iff.1 hc.2
  intro he
  have hlen := congrArg List.length he
  rw [hsplit, hform, List.cons_append, refs.decode_append_cons, List.length_append,
    List.length_append] at hlen
  rw [hform, List.cons_append] at hlt
  omega

end References

end Prepress.Markup
