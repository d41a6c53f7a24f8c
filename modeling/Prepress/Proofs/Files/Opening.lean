/-
# Opening files

On the way to a file folders are made, and at the end of it the file is begun.  Nothing that is
there is changed by that: either the store stays as it is, or there is something where there was
nothing (`Adds`).
-/
import Prepress.Files.Store

namespace Prepress.Store

open Text

/-! ## Places -/

variable {s t u : Store} {p : Path}

theorem place_eq_nothing : s.place p = .nothing ↔ s.find? p = none ∧ s.isFolder p = false := by
  rw [place]
  cases s.find? p with
  | some file => simp
  | none => cases s.isFolder p <;> simp

theorem read?_eq_none : s.read? p = none ↔ s.find? p = none := by
  rw [read?, Option.map_eq_none_iff]

/-- Whether there is something at a location is seen from the files and the folders. -/
theorem place_eq_nothing_of_eq (hread : t.read? p = s.read? p)
    (hfolder : t.isFolder p = s.isFolder p) (h : s.place p = .nothing) : t.place p = .nothing := by
  rw [place_eq_nothing, ← read?_eq_none] at h ⊢
  rw [hread, hfolder]
  exact h

/-! ## Stores with more in them -/

/-- A store has all places of another one, and if it is not the same it has a new one. -/
structure Adds (s t : Store) : Prop where
  keeps : ∀ p, s.place p ≠ .nothing → t.place p ≠ .nothing
  eq_or_new : t = s ∨ ∃ p, s.place p = .nothing ∧ t.place p ≠ .nothing

theorem Adds.refl (s : Store) : Adds s s := ⟨fun _ h => h, Or.inl rfl⟩

theorem Adds.trans (h : Adds s t) (h' : Adds t u) : Adds s u := by
  refine ⟨fun p hp => h'.keeps p (h.keeps p hp), ?_⟩
  rcases h.eq_or_new with rfl | ⟨p, hs, ht⟩
  · exact h'.eq_or_new
  · exact Or.inr ⟨p, hs, h'.keeps p ht⟩

/-- A store in which every file and every folder is the same as in one that it was made from is that
one. -/
theorem Adds.eq_of_same (h : Adds s t) (hread : ∀ p, t.read? p = s.read? p)
    (hfolder : ∀ p, t.isFolder p = s.isFolder p) : t = s := by
  rcases h.eq_or_new with h | ⟨p, hs, ht⟩
  · exact h
  · exact absurd (place_eq_nothing_of_eq (hread p) (hfolder p) hs) ht

/-- A folder more. -/
theorem isFolder_addFolder (s : Store) (p q : Path) :
    Store.isFolder { s with folders := s.folders ++ [p] } q = (s.isFolder q || q == p) := by
  rw [isFolder, isFolder, List.contains_append, List.contains_cons, List.contains_nil,
    Bool.or_false]
  simp only [Bool.or_assoc, Bool.or_comm]

theorem adds_folder (h : s.place p = .nothing) : Adds s { s with folders := s.folders ++ [p] } := by
  have hfind : ∀ q, Store.find? { s with folders := s.folders ++ [p] } q = s.find? q :=
    fun _ => rfl
  constructor
  · intro q hq hnothing
    rw [place_eq_nothing, hfind, isFolder_addFolder, Bool.or_eq_false_iff] at hnothing
    exact hq (place_eq_nothing.2 ⟨hnothing.1, hnothing.2.1⟩)
  · refine Or.inr ⟨p, h, ?_⟩
    rw [Ne, place_eq_nothing, isFolder_addFolder, beq_self_eq_true, Bool.or_true]
    simp

/-- A file more. -/
theorem find?_create (s : Store) (p q : Path) (bytes : ByteArray) :
    (s.create p bytes).find? q
      = (s.find? q).or (if p == q then some s.contents.length else none) := by
  rw [find?, find?, create, List.find?_append, Option.map_or, List.find?_singleton]
  split <;> rfl

/-- All folders stay when a file is made. -/
theorem isFolder_create {q : Path} (h : s.isFolder q = true) (bytes : ByteArray) :
    (s.create p bytes).isFolder q = true := by
  rw [isFolder, create, List.any_append, ← Bool.or_assoc]
  rw [isFolder] at h
  rw [h, Bool.true_or]

theorem adds_create (h : s.place p = .nothing) (bytes : ByteArray) : Adds s (s.create p bytes) := by
  constructor
  · intro q hq hnothing
    rw [place_eq_nothing, find?_create, Option.or_eq_none_iff] at hnothing
    refine hq (place_eq_nothing.2 ⟨hnothing.1.1, ?_⟩)
    rw [← Bool.not_eq_true]
    intro hf
    rw [isFolder_create hf] at hnothing
    exact absurd hnothing.2 (by simp)
  · refine Or.inr ⟨p, h, ?_⟩
    rw [Ne, place_eq_nothing, find?_create, (place_eq_nothing.1 h).1, beq_self_eq_true]
    simp

/-! ## Opening -/

theorem adds_makeFrom (s : Store) (blocked : FileFault) (here : Path) (names : List Text) :
    Adds s (s.makeFrom blocked here names).1 := by
  induction names generalizing s here with
  | nil =>
      rw [makeFrom]
      split <;> exact Adds.refl s
  | cons name names ih =>
      rw [makeFrom]
      split
      · exact Adds.refl s
      · split
        · exact Adds.refl s
        · split
          · exact Adds.refl s
          · dsimp only
            -- a folder that is made stays there, whatever keeps a later one from being made
            split
            · next h => exact (adds_folder h).trans (ih _ _)
            · exact ih _ _

theorem adds_makeFolder (s : Store) (p : Path) : Adds s (s.makeFolder p).1 := by
  rw [makeFolder]
  split
  · exact Adds.refl s
  · exact adds_makeFrom s _ _ _

theorem adds_openForAppending {stream : Nat} (h : s.openForAppending p = .ok (t, stream)) :
    Adds s t := by
  rw [openForAppending] at h
  split at h
  · cases h
  · split at h
    · cases h
    · split at h
      · cases h
      · cases h
        exact Adds.refl _
      · next hp =>
          cases h
          exact adds_create hp _

/-- The store after a file has been opened at a written path, or after what kept it from being
opened. -/
def opened (s : Store) (written : Text) : Store :=
  match s.makeFolder (Path.folderOf written) with
  | (t, some _) => t
  | (t, none) =>
    match t.openForAppending (Path.ofText written).resolved with
    | .error _ => t
    | .ok (u, _) => u

theorem adds_opened (s : Store) (written : Text) : Adds s (s.opened written) := by
  have hfolder := s.adds_makeFolder (Path.folderOf written)
  rw [opened]
  split
  · next h =>
      rw [h] at hfolder
      exact hfolder
  · next h =>
      rw [h] at hfolder
      split
      · exact hfolder
      · next hopen => exact hfolder.trans (adds_openForAppending hopen)

end Prepress.Store
