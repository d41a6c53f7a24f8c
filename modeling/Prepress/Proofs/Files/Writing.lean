/-
# Writing files

A file can be written at a path when nothing is in its way (`IsWritable`): no name is too long, no
file stands where a folder is needed, and no folder where the file goes.  Then the folders are made
(`makeFrom_snd_eq_none_iff`, `isFolder_makeFrom`), the path leads on through them (`followFrom_eq`),
and the file holds what is written while all other files hold what they held (`exists_written`).
Nothing else can be written: `isWritable_of_write`.
-/
import Mathlib.Data.List.Basic
import Prepress.Proofs.Files.Opening
import Prepress.Proofs.Text.Within

namespace Prepress

open Text

/-! ## Lengths and characters of paths -/

theorem Text.byteLength_append (a b : Text) :
    byteLength (a ++ b) = byteLength a + byteLength b := by
  rw [byteLength, List.map_append, total_append]
  rfl

theorem Text.hasNull_append (a b : Text) : hasNull (a ++ b) = (hasNull a || hasNull b) :=
  List.any_append

theorem Text.hasNull_join (names : List Text) : hasNull (join ['/'] names) = names.any hasNull := by
  induction names with
  | nil => rfl
  | cons name names ih =>
      by_cases hnames : names = []
      · rw [hnames, join, List.any_cons, List.any_nil, Bool.or_false]
      · rw [join_cons _ _ hnames, hasNull_append, hasNull_append, ih, List.any_cons,
          show hasNull ['/'] = false from rfl, Bool.or_false]

namespace Path

theorem hasNull_text (p : Path) : hasNull p.text = (hasNull p.root || p.parts.any hasNull) := by
  rw [text]
  split
  · next h =>
      rw [h.1, h.2]
      rfl
  · rw [hasNull_append, hasNull_join]

/-- The folder above is written with no more bytes than the path, or with a single point. -/
theorem byteLength_parent_text_le (p : Path) :
    byteLength p.parent.text ≤ max 1 (byteLength p.text) := by
  rcases List.eq_nil_or_concat' p.parts with hnone | ⟨names, name, hparts⟩
  · have hparent : p.parent = p := by
      rw [parent, hnone, List.dropLast_nil, ← hnone]
    rw [hparent]
    exact Nat.le_max_right _ _
  · have hnames : p.parent.parts = names := by
      rw [parent, hparts, List.dropLast_concat]
    rw [text]
    split
    · exact Nat.le_max_left _ _
    · refine Nat.le_trans ?_ (Nat.le_max_right _ _)
      have htext : p.text = p.root ++ join ['/'] (names ++ [name]) := by
        rw [text, hparts, if_neg (by simp)]
      rw [htext, hnames, show p.parent.root = p.root from rfl, byteLength_append,
        byteLength_append]
      refine Nat.add_le_add_left ?_ _
      by_cases hempty : names = []
      · rw [hempty]
        exact Nat.zero_le _
      · rw [join_concat _ _ hempty, byteLength_append, byteLength_append]
        omega

/-! ## The way of a path -/

/-- Where the way of a path begins. -/
def origin (p : Path) : Path := ⟨p.root, []⟩

/-- The locations that names lead through from a location, up to the one before the last. -/
def passed : (here : Path) → (names : List Text) → List Path
  | _, [] => []
  | here, name :: names => here :: passed (here.enter name) names

/-- The locations of the folders that a path leads through. -/
def way (p : Path) : List Path := passed p.origin p.parts

theorem passed_concat (here : Path) (names : List Text) (name : Text) :
    passed here (names ++ [name]) = passed here names ++ [names.foldl enter here] := by
  induction names generalizing here with
  | nil => rfl
  | cons first names ih =>
      rw [List.cons_append, passed, ih]
      rfl

end Path

namespace Store

open Prepress.Path

variable {s t u : Store} {p q : Path}

/-! ## Places -/

theorem place_eq_file {file : Nat} : s.place p = .file file ↔ s.find? p = some file := by
  rw [place]
  cases s.find? p with
  | some other => simp
  | none => cases s.isFolder p <;> simp

theorem place_eq_folder : s.place p = .folder ↔ s.find? p = none ∧ s.isFolder p = true := by
  rw [place]
  cases s.find? p with
  | some file => simp
  | none => cases s.isFolder p <;> simp

theorem isFolder_origin (p : Path) : s.isFolder p.origin = true := rfl

/-! ## Making folders -/

/-- A name that a folder or a file can have. -/
def IsName (name : Text) : Prop := hasNull name = false ∧ byteLength name ≤ longestName

/-- The store with a folder at a location where there was nothing. -/
def withFolder (s : Store) (q : Path) : Store :=
  match s.place q with
  | .nothing => { s with folders := s.folders ++ [q] }
  | _ => s

theorem withFolder_contents (s : Store) (q : Path) :
    (s.withFolder q).names = s.names ∧ (s.withFolder q).contents = s.contents := by
  unfold withFolder
  cases s.place q <;> exact ⟨rfl, rfl⟩

theorem find?_withFolder (s : Store) (p q : Path) : (s.withFolder p).find? q = s.find? q := by
  rw [find?, (withFolder_contents s p).1, find?]

theorem isFolder_withFolder (h : s.find? p = none) :
    (s.withFolder p).isFolder q = true ↔ s.isFolder q = true ∨ q = p := by
  unfold withFolder
  cases hplace : s.place p with
  | file file =>
      rw [place_eq_file.1 hplace] at h
      cases h
  | folder =>
      refine ⟨Or.inl, ?_⟩
      rintro (hq | rfl)
      · exact hq
      · exact (place_eq_folder.1 hplace).2
  | nothing => rw [isFolder_addFolder, Bool.or_eq_true, beq_iff_eq]

section Making

variable {blocked : FileFault} {here : Path} {name : Text} {names : List Text}

/-- Where no file is in the way, the folder of the first name is there before those of the names
behind it are made. -/
theorem makeFrom_cons (hname : IsName name) (hnone : s.find? here = none) :
    s.makeFrom blocked here (name :: names)
      = (s.withFolder (here.enter name)).makeFrom blocked (here.enter name) names := by
  rw [makeFrom, if_neg (by simp [hname.1])]
  split
  · next file hfile =>
      rw [place_eq_file.1 hfile] at hnone
      cases hnone
  · rw [if_neg (Nat.not_lt.2 hname.2), withFolder]
    dsimp only
    cases s.place (here.enter name) <;> rfl

/-- No folder is made where a file is in the way, or with what is no name. -/
theorem exists_makeFrom_cons_fault (blocked : FileFault) (names : List Text)
    (h : ¬ (IsName name ∧ s.find? here = none)) :
    ∃ fault, s.makeFrom blocked here (name :: names) = (s, some fault) := by
  rw [makeFrom]
  split
  · exact ⟨_, rfl⟩
  · next hnull =>
      split
      · exact ⟨_, rfl⟩
      · next hplace =>
          have hnone : s.find? here = none := by
            rw [Option.eq_none_iff_forall_ne_some]
            exact fun file hfile => hplace file (place_eq_file.2 hfile)
          split
          · exact ⟨_, rfl⟩
          · next hshort =>
              exact absurd ⟨⟨Bool.eq_false_iff.2 hnull, Nat.not_lt.1 hshort⟩, hnone⟩ h

theorem makeFrom_contents (s : Store) (blocked : FileFault) (here : Path) (names : List Text) :
    (s.makeFrom blocked here names).1.names = s.names ∧
      (s.makeFrom blocked here names).1.contents = s.contents := by
  induction names generalizing s here with
  | nil =>
      rw [makeFrom]
      split <;> exact ⟨rfl, rfl⟩
  | cons name names ih =>
      by_cases h : IsName name ∧ s.find? here = none
      · obtain ⟨hnames, hcontents⟩ := withFolder_contents s (here.enter name)
        rw [makeFrom_cons h.1 h.2, ← hnames, ← hcontents]
        exact ih _ _
      · obtain ⟨fault, hfault⟩ := exists_makeFrom_cons_fault blocked names h
        rw [hfault]
        exact ⟨rfl, rfl⟩

theorem find?_makeFrom (s : Store) (blocked : FileFault) (here : Path) (names : List Text) :
    (s.makeFrom blocked here names).1.find? q = s.find? q := by
  rw [find?, (makeFrom_contents s blocked here names).1, find?]

/-- Folders are made as long as the names are names and no file is on the way or at its end. -/
theorem makeFrom_snd_eq_none_iff (s : Store) (blocked : FileFault) (here : Path)
    (names : List Text) :
    (s.makeFrom blocked here names).2 = none ↔
      (∀ name ∈ names, IsName name) ∧ (∀ q ∈ passed here names, s.find? q = none) ∧
        s.find? (names.foldl enter here) = none := by
  induction names generalizing s here with
  | nil =>
      rw [makeFrom, List.foldl_nil]
      cases hplace : s.place here with
      | file file => simp [place_eq_file.1 hplace]
      | folder => simp [(place_eq_folder.1 hplace).1, passed]
      | nothing => simp [(place_eq_nothing.1 hplace).1, passed]
  | cons name names ih =>
      rw [List.forall_mem_cons, passed, List.forall_mem_cons, List.foldl_cons]
      by_cases h : IsName name ∧ s.find? here = none
      · rw [makeFrom_cons h.1 h.2, ih]
        simp only [find?_withFolder, h.1, h.2, true_and]
      · obtain ⟨fault, hfault⟩ := exists_makeFrom_cons_fault blocked names h
        rw [hfault]
        refine iff_of_false (by simp) ?_
        rintro ⟨⟨hname, -⟩, ⟨hnone, -⟩, -⟩
        exact h ⟨hname, hnone⟩

/-- Where folders have been made there are those that were there and those that names lead through
and to. -/
theorem isFolder_makeFrom (hhere : s.isFolder here = true)
    (h : (s.makeFrom blocked here names).2 = none) :
    (s.makeFrom blocked here names).1.isFolder q = true ↔
      s.isFolder q = true ∨ q ∈ passed here names ∨ q = names.foldl enter here := by
  have hq : q = here → s.isFolder q = true := by
    rintro rfl
    exact hhere
  induction names generalizing s here with
  | nil =>
      rw [makeFrom, List.foldl_nil, passed]
      split <;> simpa using hq
  | cons name names ih =>
      obtain ⟨hnames, hpassed, hend⟩ := (makeFrom_snd_eq_none_iff _ _ _ _).1 h
      obtain ⟨hname, -⟩ := List.forall_mem_cons.1 hnames
      obtain ⟨hnone, hrest⟩ := List.forall_mem_cons.1 hpassed
      -- the first folder is the next one on the way, or the last one
      have hfirst : here.enter name ∈ passed (here.enter name) names ∨
          here.enter name = names.foldl enter (here.enter name) := by
        cases names with
        | nil => exact Or.inr rfl
        | cons _ _ => exact Or.inl List.mem_cons_self
      have hnext : s.find? (here.enter name) = none := by
        rcases hfirst with hmem | hlast
        · exact hrest _ hmem
        · rw [hlast]
          exact hend
      have hmade : ∀ r, r = here.enter name →
          (s.withFolder (here.enter name)).isFolder r = true := fun r hr =>
        (isFolder_withFolder hnext).2 (Or.inr hr)
      rw [makeFrom_cons hname hnone] at h ⊢
      refine (ih (hmade _ rfl) h (hmade q)).trans ?_
      rw [isFolder_withFolder hnext, passed, List.mem_cons, List.foldl_cons]
      constructor
      · rintro ((hold | rfl) | hnew)
        · exact Or.inl hold
        · exact Or.inr (hfirst.imp_left Or.inr)
        · exact Or.inr (hnew.imp_left Or.inr)
      · rintro (hold | (hold | hnew) | hnew)
        · exact Or.inl (Or.inl hold)
        · exact Or.inl (Or.inl (hq hold))
        · exact Or.inr (Or.inl hnew)
        · exact Or.inr (Or.inr hnew)

end Making

/-! ## Following a path -/

/-- Through folders names lead to what is at their location, unless one of them is too long. -/
theorem followFrom_eq {here : Path} {names : List Text}
    (h : ∀ q ∈ passed here names, s.place q = .folder) :
    s.followFrom here names
      = if ∀ name ∈ names, byteLength name ≤ longestName then .ok (s.place (names.foldl enter here))
        else .error .tooLong := by
  induction names generalizing here with
  | nil => simp [followFrom]
  | cons name names ih =>
      obtain ⟨hhere, hrest⟩ := List.forall_mem_cons.1 h
      rw [followFrom, hhere]
      dsimp only
      by_cases hname : byteLength name ≤ longestName
      · rw [if_neg (Nat.not_lt.2 hname), ih hrest, List.foldl_cons]
        simp only [List.forall_mem_cons, hname, true_and]
      · rw [if_pos (Nat.not_le.1 hname), if_neg fun hall => hname (hall name List.mem_cons_self)]

/-- Names lead to something, or to nothing, where no file is in their way. -/
theorem exists_followFrom {here : Path} {names : List Text}
    (hnames : ∀ name ∈ names, byteLength name ≤ longestName)
    (h : ∀ q ∈ passed here names, s.find? q = none) :
    ∃ place, s.followFrom here names = .ok place := by
  induction names generalizing here with
  | nil => exact ⟨_, rfl⟩
  | cons name names ih =>
      obtain ⟨hname, hnames⟩ := List.forall_mem_cons.1 hnames
      obtain ⟨hhere, hrest⟩ := List.forall_mem_cons.1 h
      rw [followFrom]
      split
      · exact ⟨_, rfl⟩
      · next file hfile =>
          rw [place_eq_file.1 hfile] at hhere
          cases hhere
      · rw [if_neg (Nat.not_lt.2 hname)]
        exact ih hnames hrest

/-- A path that could be the name of something. -/
structure IsNamed (p : Path) : Prop where
  noNull : hasNull p.text = false
  short : byteLength p.text ≤ longestPath
  shortNames : ∀ name ∈ p.parts, byteLength name ≤ longestName

instance (p : Path) : Decidable (IsNamed p) :=
  decidable_of_iff (hasNull p.text = false ∧ byteLength p.text ≤ longestPath ∧
      ∀ name ∈ p.parts, byteLength name ≤ longestName)
    ⟨fun ⟨hnull, hshort, hnames⟩ => ⟨hnull, hshort, hnames⟩, fun h => ⟨h.1, h.2, h.3⟩⟩

theorem follow_of_isNamed (hp : IsNamed p) : s.follow p = s.followFrom p.origin p.parts := by
  rw [follow, if_neg (by simp [hp.noNull]), if_neg (Nat.not_lt.2 hp.short), origin]

/-- Through folders a path leads to what is at its location. -/
theorem follow_eq_place (hp : IsNamed p) (h : ∀ q ∈ p.way, s.place q = .folder) :
    s.follow p = .ok (s.place p.resolved) := by
  rw [follow_of_isNamed hp, followFrom_eq h, if_pos hp.shortNames]
  rfl

/-- A path that is followed through folders to its end could be the name of something. -/
theorem isNamed_of_follow {place : Place} (h : ∀ q ∈ p.way, s.place q = .folder)
    (hfollow : s.follow p = .ok place) : IsNamed p ∧ place = s.place p.resolved := by
  rw [follow] at hfollow
  split at hfollow
  · cases hfollow
  · next hnull =>
      split at hfollow
      · cases hfollow
      · next hshort =>
          rw [show (⟨p.root, []⟩ : Path) = p.origin from rfl, followFrom_eq h] at hfollow
          split at hfollow
          · next hnames =>
              rw [Except.ok.injEq] at hfollow
              exact ⟨⟨Bool.eq_false_iff.2 hnull, Nat.not_lt.1 hshort, hnames⟩, hfollow.symm⟩
          · cases hfollow

theorem IsNamed.parent (hp : IsNamed p) : IsNamed p.parent := by
  have hnull := hp.noNull
  rw [hasNull_text, Bool.or_eq_false_iff, List.any_eq_false] at hnull
  refine ⟨?_, ?_, fun name hname => hp.shortNames name (List.dropLast_subset _ hname)⟩
  · rw [hasNull_text, Bool.or_eq_false_iff, List.any_eq_false]
    exact ⟨hnull.1, fun name hname => hnull.2 name (List.dropLast_subset _ hname)⟩
  · have hbound := byteLength_parent_text_le p
    have hshort := hp.short
    have hone : 1 ≤ longestPath := by decide
    omega

/-- The names of a path that could be the name of something are names themselves. -/
theorem IsNamed.isName (hp : IsNamed p) : ∀ name ∈ p.parts, IsName name := by
  have hnull := hp.noNull
  rw [hasNull_text, Bool.or_eq_false_iff, List.any_eq_false] at hnull
  exact fun name hname => ⟨Bool.eq_false_iff.2 (hnull.2 name hname), hp.shortNames name hname⟩

/-! ## The folders above -/

/-- The way of a path is the way of the folder above and that folder. -/
theorem way_eq (h : p.parts ≠ []) : p.way = p.parent.way ++ [p.parent.resolved] := by
  have hparts : p.parts = p.parent.parts ++ [p.parts.getLast h] :=
    (List.dropLast_concat_getLast h).symm
  rw [way, hparts, passed_concat]
  rfl

/-- The folder is made if the path could be the name of something and no file is in the way of a
folder. -/
theorem exists_needFolder (hp : IsNamed p) (hway : ∀ q ∈ p.way, s.find? q = none)
    (hend : s.find? p.resolved = none) : ∃ t, s.needFolder p = (t, none) := by
  obtain ⟨place, hfollow⟩ := exists_followFrom hp.shortNames hway
  have hmade : (s.makeFrom .isFile p.origin p.parts).2 = none :=
    (makeFrom_snd_eq_none_iff _ _ _ _).2 ⟨hp.isName, hway, hend⟩
  rw [needFolder, follow_of_isNamed hp, hfollow]
  exact ⟨(s.makeFrom .isFile p.origin p.parts).1, Prod.ext rfl hmade⟩

/-- A store with the folders of a path and its files as they were. -/
structure HasFolders (s : Store) (p : Path) (t : Store) : Prop where
  contents : t.contents = s.contents
  find? : ∀ q, t.find? q = s.find? q
  noFile : ∀ q ∈ p.way ++ [p.resolved], s.find? q = none
  isFolder : ∀ q, t.isFolder q = true ↔ s.isFolder q = true ∨ q ∈ p.way ++ [p.resolved]

theorem hasFolders_needFolder (h : s.needFolder p = (t, none)) : HasFolders s p t := by
  rw [needFolder] at h
  split at h
  · cases h
  · have hmade : (s.makeFrom .isFile p.origin p.parts).2 = none := congrArg Prod.snd h
    have ht : (s.makeFrom .isFile p.origin p.parts).1 = t := congrArg Prod.fst h
    obtain ⟨-, hway, hend⟩ := (makeFrom_snd_eq_none_iff _ _ _ _).1 hmade
    subst ht
    refine ⟨(makeFrom_contents _ _ _ _).2, fun q => find?_makeFrom _ _ _ _, fun q hq => ?_,
      fun q => ?_⟩
    · rcases List.mem_append.1 hq with hq | hq
      · exact hway q hq
      · rw [List.mem_singleton.1 hq]
        exact hend
    · rw [isFolder_makeFrom (isFolder_origin p) hmade, List.mem_append, List.mem_singleton]
      rfl

namespace HasFolders

variable (h : HasFolders s p t)

include h

theorem place_eq_folder (hq : q ∈ p.way ++ [p.resolved]) : t.place q = .folder :=
  Store.place_eq_folder.2 ⟨(h.find? q).trans (h.noFile q hq), (h.isFolder q).2 (Or.inr hq)⟩

/-- Elsewhere there is what was there. -/
theorem place_eq (hq : q ∉ p.way ++ [p.resolved]) : t.place q = s.place q := by
  have hfolder : t.isFolder q = s.isFolder q := by
    rw [Bool.eq_iff_iff, h.isFolder]
    simp only [hq, or_false]
  rw [place, h.find?, hfolder, place]

end HasFolders

/-! ## Writing -/

/-- The file at a path can be written, with the folders above it where they are not there. -/
structure IsWritable (s : Store) (p : Path) : Prop where
  isNamed : IsNamed p
  parts : p.parts ≠ []
  noFile : ∀ q ∈ p.way, s.find? q = none
  notOnWay : p.resolved ∉ p.way
  notFolder : s.place p.resolved ≠ .folder

instance (s : Store) (p : Path) : Decidable (s.IsWritable p) :=
  decidable_of_iff (IsNamed p ∧ p.parts ≠ [] ∧ (∀ q ∈ p.way, s.find? q = none) ∧
      p.resolved ∉ p.way ∧ s.place p.resolved ≠ .folder)
    ⟨fun ⟨hnamed, hparts, hfile, hway, hfolder⟩ => ⟨hnamed, hparts, hfile, hway, hfolder⟩,
      fun h => ⟨h.1, h.2, h.3, h.4, h.5⟩⟩

/-- Every file of a store has contents of its own. -/
structure IsSound (s : Store) : Prop where
  inBounds : ∀ p file, s.find? p = some file → file < s.contents.length
  apart : ∀ p q file, s.find? p = some file → s.find? q = some file → p = q

theorem isSound_empty : IsSound .empty := ⟨fun _ _ h => (nomatch h), fun _ _ _ h => (nomatch h)⟩

/-- A new file has contents of its own. -/
theorem IsSound.create (hs : s.IsSound) (p : Path) (bytes : ByteArray) :
    (s.create p bytes).IsSound := by
  have hlength : (s.create p bytes).contents.length = s.contents.length + 1 :=
    List.length_append
  have hcases : ∀ q file, (s.create p bytes).find? q = some file →
      s.find? q = some file ∨ (q = p ∧ file = s.contents.length) := by
    intro q file h
    rw [find?_create, Option.or_eq_some_iff] at h
    rcases h with h | ⟨-, h⟩
    · exact Or.inl h
    · rw [Option.ite_none_right_eq_some, Option.some.injEq, beq_iff_eq] at h
      exact Or.inr ⟨h.1.symm, h.2.symm⟩
  constructor
  · intro q file h
    rcases hcases q file h with h | ⟨-, rfl⟩
    · have hbound := hs.inBounds q file h
      omega
    · omega
  · intro q r file hq hr
    rcases hcases q file hq with hold | ⟨hqp, hfile⟩ <;>
      rcases hcases r file hr with hold' | ⟨hrp, hfile'⟩
    · exact hs.apart q r file hold hold'
    · exact absurd (hs.inBounds q file hold) (by omega)
    · exact absurd (hs.inBounds r file hold') (by omega)
    · rw [hqp, hrp]

/-- What a path leads to is a file with the given contents. -/
def Holds (s : Store) (p : Path) (bytes : ByteArray) : Prop :=
  ∃ file, s.follow p = .ok (.file file) ∧ s.content file = bytes

theorem decodeText?_encodeText (t : Text) : decodeText? (encodeText t) = some t := by
  have hstring : String.fromUTF8? (String.ofList t).toUTF8 = some (String.ofList t) := by
    rw [String.fromUTF8?]
    split
    · rfl
    · next h => exact absurd (String.ofList t).isValidUTF8 (by simpa using h)
  rw [decodeText?, encodeText, hstring, Option.map_some, String.toList_ofList]

/-- What a path leads to is a file that holds a text. -/
def IsText (s : Store) (p : Path) (t : Text) : Prop :=
  ∃ bytes, s.Holds p bytes ∧ decodeText? bytes = some t

theorem content_setContent {file : Nat} (h : file < s.contents.length) (bytes : ByteArray) :
    (s.setContent file bytes).content file = bytes := by
  rw [content, setContent, List.getD_eq_getElem?_getD, List.getElem?_set_self h]
  rfl

theorem content_setContent_of_ne {file other : Nat} (h : other ≠ file) (bytes : ByteArray) :
    (s.setContent file bytes).content other = s.content other := by
  rw [content, setContent, List.getD_eq_getElem?_getD, List.getElem?_set_ne h.symm, content,
    List.getD_eq_getElem?_getD]

theorem content_create (p : Path) (bytes : ByteArray) :
    (s.create p bytes).content s.contents.length = bytes := by
  rw [content, create, List.getD_eq_getElem?_getD, List.getElem?_concat_length]
  rfl

theorem content_create_of_lt {file : Nat} (h : file < s.contents.length) (p : Path)
    (bytes : ByteArray) : (s.create p bytes).content file = s.content file := by
  rw [content, create, List.getD_eq_getElem?_getD, List.getElem?_append_left h, content,
    List.getD_eq_getElem?_getD]

/-- Where the folders are there, a file is written at its location and nowhere else. -/
theorem exists_write (ht : t.IsSound) (hp : IsNamed p) (hway : ∀ q ∈ p.way, t.place q = .folder)
    (hnotOnWay : p.resolved ∉ p.way) (hend : t.place p.resolved ≠ .folder) (bytes : ByteArray) :
    ∃ u, t.write p bytes = .ok u ∧ u.Holds p bytes ∧
      ∀ q, q ≠ p.resolved → u.read? q = t.read? q := by
  have hfollow := follow_eq_place hp hway
  cases hplace : t.place p.resolved with
  | folder => exact absurd hplace hend
  | file file =>
      have hfile := place_eq_file.1 hplace
      have hsame : ∀ q, (t.setContent file bytes).place q = t.place q := fun _ => rfl
      refine ⟨t.setContent file bytes, by rw [write, hfollow, hplace], ⟨file, ?_, ?_⟩, ?_⟩
      · rw [follow_eq_place hp fun q hq => (hsame q).trans (hway q hq), hsame, hplace]
      · exact content_setContent (ht.inBounds _ _ hfile) bytes
      · intro q hq
        rw [read?, read?, show (t.setContent file bytes).find? q = t.find? q from rfl]
        refine Option.map_congr fun other hother => content_setContent_of_ne ?_ bytes
        rintro rfl
        exact hq (ht.apart _ _ _ hother hfile)
  | nothing =>
      have hnone := (place_eq_nothing.1 hplace).1
      have hfind : (t.create p.resolved bytes).find? p.resolved = some t.contents.length := by
        rw [find?_create, hnone, if_pos BEq.rfl]
        rfl
      have hother : ∀ q, q ≠ p.resolved → (t.create p.resolved bytes).find? q = t.find? q := by
        intro q hq
        rw [find?_create, if_neg (by simpa using hq.symm), Option.or_none]
      have hfolders : ∀ q ∈ p.way, (t.create p.resolved bytes).place q = .folder := by
        intro q hq
        have hne : q ≠ p.resolved := ne_of_mem_of_not_mem hq hnotOnWay
        obtain ⟨hq, hfolder⟩ := place_eq_folder.1 (hway q hq)
        rw [place_eq_folder, hother q hne]
        exact ⟨hq, isFolder_create hfolder bytes⟩
      refine ⟨t.create p.resolved bytes, by rw [write, hfollow, hplace],
        ⟨t.contents.length, ?_, content_create _ bytes⟩, ?_⟩
      · rw [follow_eq_place hp hfolders, place_eq_file.2 hfind]
      · intro q hq
        rw [read?, read?, hother q hq]
        exact Option.map_congr fun file hfile =>
          content_create_of_lt (ht.inBounds q file hfile) _ bytes

/-- A file that can be written is there when it has been written, and no other file has changed. -/
theorem exists_written (hs : s.IsSound) (hp : s.IsWritable p) (bytes : ByteArray) :
    ∃ t u, s.needFolder p.parent = (t, none) ∧ t.write p bytes = .ok u ∧ u.Holds p bytes ∧
      ∀ q, q ≠ p.resolved → u.read? q = s.read? q := by
  have hway := way_eq hp.parts
  have hnoFile := hp.noFile
  rw [hway, List.forall_mem_append] at hnoFile
  obtain ⟨t, ht⟩ :=
    exists_needFolder hp.isNamed.parent hnoFile.1 (hnoFile.2 _ (List.mem_singleton_self _))
  have hfolders := hasFolders_needFolder ht
  have hsound : t.IsSound := by
    constructor
    · intro q file h
      rw [hfolders.find?] at h
      rw [hfolders.contents]
      exact hs.inBounds q file h
    · intro q r file hq hr
      rw [hfolders.find?] at hq hr
      exact hs.apart q r file hq hr
  have hnotOnWay := hp.notOnWay
  have hend : t.place p.resolved ≠ .folder := by
    rw [hfolders.place_eq (hway ▸ hnotOnWay)]
    exact hp.notFolder
  obtain ⟨u, hu, hholds, hothers⟩ := exists_write hsound hp.isNamed
    (fun q hq => hfolders.place_eq_folder (hway ▸ hq)) hnotOnWay hend bytes
  refine ⟨t, u, ht, hu, hholds, fun q hq => ?_⟩
  have hcontent : t.content = s.content := by
    funext file
    rw [content, hfolders.contents, content]
  rw [hothers q hq, read?, hfolders.find?, hcontent, read?]

/-- What has been written could be written. -/
theorem isWritable_of_write {bytes : ByteArray} (ht : s.needFolder p.parent = (t, none))
    (hu : t.write p bytes = .ok u) : s.IsWritable p := by
  have hfolders := hasFolders_needFolder ht
  obtain ⟨place, hfollow, hplace⟩ : ∃ place, t.follow p = .ok place ∧ place ≠ .folder := by
    rw [write] at hu
    split at hu
    · cases hu
    · cases hu
    · next file h => exact ⟨_, h, by simp⟩
    · next h => exact ⟨_, h, by simp⟩
  have hparts : p.parts ≠ [] := by
    intro hnone
    have hparent : p.parent = p := by
      rw [parent, hnone, List.dropLast_nil, ← hnone]
    have hway : p.way = [] := by
      rw [way, hnone, passed]
    have hend := hfolders.place_eq_folder (q := p.resolved) (by simp [hparent])
    obtain ⟨-, hp⟩ := isNamed_of_follow (by simp [hway]) hfollow
    exact hplace (hp.trans hend)
  have hway := way_eq hparts
  obtain ⟨hnamed, hp⟩ :=
    isNamed_of_follow (fun q hq => hfolders.place_eq_folder (hway ▸ hq)) hfollow
  rw [hp] at hplace
  have hnotOnWay : p.resolved ∉ p.way := fun hq => hplace (hfolders.place_eq_folder (hway ▸ hq))
  refine ⟨hnamed, hparts, fun q hq => hfolders.noFile q (hway ▸ hq), hnotOnWay, ?_⟩
  rw [← hfolders.place_eq (hway ▸ hnotOnWay)]
  exact hplace

end Store

end Prepress
