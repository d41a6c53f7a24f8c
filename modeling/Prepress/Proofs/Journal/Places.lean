/-
# Where loggers stand

A logger stands below the root or below a logger with a shorter name, and while another logger is
entered between the two it goes below that one, whose name it has passed over (`IsNested`).  Entering
a logger keeps this up (`isNested_enter`), and nothing else moves a logger.  So the way from a logger
to the root never comes to a logger twice (`nodup_chain`).
-/
import Prepress.Proofs.Journal.Calls

namespace Prepress.Journal

open Text

/-! ## Ancestors -/

theorem mem_of_mem_divisions {points : List Nat} {n : Nat} (h : n ∈ divisions points) :
    n ∈ points := by
  fun_induction divisions points with
  | case1 => exact h
  | case2 m rest ih =>
      rcases List.mem_cons.1 h with rfl | h
      · simp
      · exact List.mem_cons_of_mem _ (List.mem_cons_of_mem _ (ih h))
  | case3 k m rest hne ih =>
      rcases List.mem_cons.1 h with rfl | h
      · simp
      · exact List.mem_cons_of_mem _ (ih h)
  | case4 k => exact h

/-- The ancestors of a logger have shorter names. -/
theorem length_lt_of_mem_ancestors {name a : Text} (h : a ∈ ancestors name) :
    a.length < name.length := by
  obtain ⟨n, hn, rfl⟩ := List.mem_map.1 h
  have hpoint := mem_of_mem_divisions (List.mem_filter.1 hn).1
  rw [List.mem_reverse, List.mem_filter, List.mem_range] at hpoint
  rw [List.length_take]
  omega

/-! ## Nesting -/

/-- A logger of a name stands below the root or a shorter name, and has passed over shorter names. -/
structure Logger.IsBelow (name : Text) (l : Logger) : Prop where
  above : isRootName l.above = true ∨ l.above.length < name.length
  passed : ∀ n ∈ l.passed, n.length < name.length

/-- Every logger stands below the root or a shorter name. -/
def IsNested (j : Journal) : Prop := ∀ entry ∈ j.loggers, entry.2.IsBelow entry.1

section Nesting

variable {j : Journal}

theorem isNested_update {name : Text} {change : Logger → Logger}
    (hchange : ∀ l, (change l).above = l.above ∧ (change l).passed = l.passed)
    (hj : j.IsNested) : (j.update name change).IsNested := by
  unfold update
  split
  · exact hj
  · intro entry hentry
    obtain ⟨e, he, rfl⟩ := List.mem_map.1 hentry
    have hbelow := hj e he
    split
    · next hname =>
        rw [← hname]
        constructor
        · rw [(hchange e.2).1]
          exact hbelow.above
        · rw [(hchange e.2).2]
          exact hbelow.passed
    · exact hbelow

theorem isNested_forget (hj : j.IsNested) : j.forget.IsNested := by
  intro entry hentry
  obtain ⟨e, he, rfl⟩ := List.mem_map.1 hentry
  exact ⟨(hj e he).above, (hj e he).passed⟩

theorem isNested_setLoggerLevel (hj : j.IsNested) (name : Text) (level : Level) :
    (j.setLoggerLevel name level).IsNested :=
  isNested_forget (isNested_update (fun _ => ⟨rfl, rfl⟩) hj)

theorem isNested_addHandler (hj : j.IsNested) (name : Text) (h : Handler) :
    (j.addHandler name h).IsNested :=
  isNested_update (fun _ => ⟨rfl, rfl⟩) hj

/-- A logger that moves goes below a name that it has passed over. -/
theorem isBelow_moveBelow (entered : Text) {name : Text} {l : Logger} (h : l.IsBelow name) :
    (moveBelow entered name l).2.IsBelow (moveBelow entered name l).1 := by
  unfold moveBelow
  split
  · next hmoves =>
      rw [Bool.and_eq_true, List.contains_iff_mem] at hmoves
      exact ⟨Or.inr (h.passed entered hmoves.1), h.passed⟩
  · exact h

/-- Entering a logger moves loggers below it only if their names are longer. -/
theorem isNested_enter (hj : j.IsNested) (name : Text) : (j.enter name).IsNested := by
  unfold enter
  split
  · exact hj
  · intro entry hentry
    rcases List.mem_append.1 hentry with hentry | hentry
    · obtain ⟨e, he, rfl⟩ := List.mem_map.1 hentry
      exact isBelow_moveBelow name (hj e he)
    · rw [List.mem_singleton.1 hentry]
      constructor
      · show isRootName (Option.getD _ rootName) = true ∨ (Option.getD _ rootName).length < _
        cases hfind : (ancestors name).find?
            fun n => (j.loggers.find? (·.1 == n)).isSome with
        | none => exact Or.inl rfl
        | some a => exact Or.inr (length_lt_of_mem_ancestors (List.mem_of_find?_eq_some hfind))
      · intro n hn
        exact length_lt_of_mem_ancestors (List.takeWhile_subset _ hn)

theorem isNested_addFile (hj : j.IsNested) (name : Option Text) (o : FileOptions) :
    (j.addFile name o).journal.IsNested := by
  unfold addFile
  split
  · exact hj
  · next name =>
      have hentered := isNested_enter hj name
      have hopened : ∀ written, ((j.enter name).openFile written).1.IsNested := by
        intro written
        rw [openFile_fst]
        exact hentered
      dsimp only
      split
      · exact hentered
      · exact hentered
      · next written _ _ =>
          have hnested := hopened written
          split
          · next hopen =>
              rw [hopen] at hnested
              exact hnested
          · next hopen =>
              rw [hopen] at hnested
              split
              · exact hnested
              · exact isNested_addHandler hnested _ _

theorem isNested_handleAt (hj : j.IsNested) (r : Record) (name : Text) :
    (handleAt r j name).IsNested :=
  isNested_update (j := { j with outlets := _ }) (fun _ => ⟨rfl, rfl⟩) hj

theorem isNested_deliver (hj : j.IsNested) (name : Text) (r : Record) :
    (j.deliver name r).IsNested := by
  have hfold : ∀ (names : List Text) (k : Journal), k.IsNested →
      (names.foldl (handleAt r) k).IsNested := by
    intro names
    induction names with
    | nil => exact fun k hk => hk
    | cons n names ih =>
        intro k hk
        exact ih _ (isNested_handleAt hk r n)
  unfold deliver
  split
  · unfold lastResort
    split <;> exact hj
  · exact hfold _ _ hj

theorem isNested_remember (hj : j.IsNested) (name : Text) (level : Level) :
    (j.remember name level).IsNested := by
  apply isNested_update _ hj
  intro l
  split <;> exact ⟨rfl, rfl⟩

theorem isNested_log (hj : j.IsNested) (name : Text) (level : Level) (message : Text) :
    (j.log name level message).IsNested := by
  have hreached := isNested_remember (isNested_enter hj name) name level
  unfold log
  dsimp only
  split
  · exact isNested_deliver hreached name _
  · exact hreached

theorem isNested_logNotes (hj : j.IsNested) (notes : List Note) : (j.logNotes notes).IsNested := by
  induction notes generalizing j with
  | nil => exact hj
  | cons note notes ih =>
      rw [logNotes, List.foldl_cons]
      exact ih (isNested_log hj _ _ _)

theorem isNested_configure (hj : j.IsNested) (levelName pattern file : Text)
    (maxBytes backups : Int) :
    (j.configure levelName pattern file maxBytes backups).journal.IsNested := by
  cases hlevel : levelNamed? levelName with
  | none =>
      rw [configure, hlevel]
      exact hj
  | some level =>
      have hcleared : ((j.setLoggerLevel rootName level).clearRoot).IsNested :=
        isNested_setLoggerLevel hj rootName level
      rw [configure_eq j hlevel]
      split
      · exact hcleared
      · next p _ =>
          have hprinting : (j.printing level p).IsNested := isNested_addHandler hcleared _ _
          split
          · exact hprinting
          · exact isNested_addFile hprinting _ _

theorem isNested_getLogger (hj : j.IsNested) (name : Option Text) :
    (j.getLogger name).journal.IsNested := by
  unfold getLogger
  split
  · exact hj
  · exact hj
  · next name _ =>
      have hentered := isNested_enter hj name
      dsimp only
      split
      · exact isNested_addHandler (isNested_setLoggerLevel hentered _ _) _ _
      · exact hentered

theorem isNested_setup (hj : j.IsNested) (levelName : Text) (rich : Bool) :
    (j.setup levelName rich).journal.IsNested := by
  rw [setup]
  split
  · exact hj
  · next level _ =>
      have hcleared : (j.clearRoot.setLoggerLevel rootName level).IsNested :=
        isNested_setLoggerLevel (j := j.clearRoot) hj rootName level
      exact isNested_logNotes (isNested_addHandler hcleared _ _) _

/-- No call moves a logger, whether it succeeds or not. -/
theorem isNested_run (hj : j.IsNested) (c : Call) : (c.run j).journal.IsNested := by
  cases c with
  | configure levelName pattern file maxBytes backups =>
      exact isNested_configure hj levelName pattern file maxBytes backups
  | setLevel levelName =>
      rw [Call.run, setLevel]
      split
      · exact hj
      · exact isNested_update (fun _ => ⟨rfl, rfl⟩) (isNested_setLoggerLevel hj _ _)
  | getLogger name => exact isNested_getLogger hj name
  | addFile name options => exact isNested_addFile hj name options
  | setup levelName rich => exact isNested_setup hj levelName rich

theorem isNested_runAll {k : Journal} {calls : List Call} (hj : j.IsNested)
    (h : j.runAll calls = some k) : k.IsNested := by
  induction calls generalizing j with
  | nil =>
      cases h
      exact hj
  | cons c calls ih =>
      obtain ⟨-, hcalls⟩ := runAll_cons h
      exact ih (isNested_run hj c) hcalls

end Nesting

/-! ## The way to the root -/

section Chain

variable {j : Journal}

theorem isBelow_logger (hj : j.IsNested) {name : Text} (h : isRootName name = false) :
    isRootName (j.logger name).above = true ∨ (j.logger name).above.length < name.length := by
  rw [logger, find?_of_not_isRootName j h]
  cases hfind : j.loggers.find? (·.1 == name) with
  | none => exact Or.inl rfl
  | some entry =>
      have hname : entry.1 = name := by simpa using List.find?_some hfind
      rw [← hname]
      exact (hj entry (List.mem_of_find?_eq_some hfind)).above

theorem chainFrom_of_isRootName (steps : Nat) {name : Text} (h : isRootName name = true) :
    j.chainFrom steps name = [rootName] := by
  cases steps with
  | zero => rfl
  | succ steps => rw [chainFrom, if_pos h]

/-- Above a name there are only shorter ones and the root. -/
theorem length_le_of_mem_chainFrom (hj : j.IsNested) {steps : Nat} {name n : Text}
    (h : n ∈ j.chainFrom steps name) : n = rootName ∨ n.length ≤ name.length := by
  induction steps generalizing name with
  | zero => exact Or.inl (List.mem_singleton.1 h)
  | succ steps ih =>
      rw [chainFrom] at h
      split at h
      · exact Or.inl (List.mem_singleton.1 h)
      · next hname =>
          rcases List.mem_cons.1 h with rfl | h
          · exact Or.inr (Nat.le_refl _)
          · rcases isBelow_logger hj (Bool.eq_false_iff.2 hname) with habove | habove
            · rw [chainFrom_of_isRootName steps habove] at h
              exact Or.inl (List.mem_singleton.1 h)
            · rcases ih h with h | h
              · exact Or.inl h
              · exact Or.inr (by omega)

/-- The way from a logger to the root comes to no logger twice. -/
theorem nodup_chain (hj : j.IsNested) (name : Text) : (j.chain name).Nodup := by
  have hfrom : ∀ steps name, (j.chainFrom steps name).Nodup := by
    intro steps
    induction steps with
    | zero => exact fun _ => List.pairwise_singleton _ _
    | succ steps ih =>
        intro name
        rw [chainFrom]
        split
        · exact List.pairwise_singleton _ _
        · next hname =>
            refine List.nodup_cons.2 ⟨?_, ih _⟩
            intro hmem
            have hroot : name ≠ rootName := by
              rintro rfl
              exact hname rfl
            rcases isBelow_logger hj (Bool.eq_false_iff.2 hname) with habove | habove
            · rw [chainFrom_of_isRootName steps habove] at hmem
              exact hroot (List.mem_singleton.1 hmem)
            · rcases length_le_of_mem_chainFrom hj hmem with h | h
              · exact hroot h
              · omega
  exact hfrom name.length name

end Chain

end Prepress.Journal
