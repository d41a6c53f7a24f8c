/-
# The loggers of a journal

What there is to a logger is its level and its handlers (`setting`).  Each part of a step changes
the setting of one logger and leaves the others alone, and entering a logger changes none at all.
Logging changes only the file that a handler has open, so the handlers stay as they were given
(`given_logNotes`).
-/
import Prepress.Journal.Setup

namespace Prepress.Journal

open Text

/-! ## Names -/

/-- Two names lead to the same logger. -/
def SameLogger (m n : Text) : Prop := m = n ∨ (isRootName m = true ∧ isRootName n = true)

instance (m n : Text) : Decidable (SameLogger m n) := by
  unfold SameLogger
  infer_instance

theorem sameLogger_rootName {n : Text} : SameLogger n rootName ↔ isRootName n = true := by
  constructor
  · rintro (rfl | ⟨h, -⟩)
    · rfl
    · exact h
  · exact fun h => Or.inr ⟨h, rfl⟩

/-- Names that are no names of the root lead to the same logger if they are the same. -/
theorem sameLogger_iff {m n : Text} (h : isRootName m = false) : SameLogger m n ↔ m = n := by
  constructor
  · rintro (h' | ⟨h', -⟩)
    · exact h'
    · rw [h] at h'
      cases h'
  · exact Or.inl

theorem SameLogger.isRootName_eq {m n : Text} (h : SameLogger m n) :
    isRootName m = isRootName n := by
  rcases h with rfl | ⟨hm, hn⟩
  · rfl
  · rw [hm, hn]

theorem not_sameLogger {m n : Text} (h : isRootName m ≠ isRootName n) : ¬ SameLogger m n :=
  fun hsame => h hsame.isRootName_eq

/-! ## Entries -/

section Entries

variable (j : Journal) {name n : Text}

theorem find?_of_isRootName (h : isRootName n = true) : j.find? n = some j.root := by
  rw [find?, if_pos h]

theorem find?_of_not_isRootName (h : isRootName n = false) :
    j.find? n = (j.loggers.find? (·.1 == n)).map (·.2) := by
  rw [find?, h, if_neg (by simp)]

/-- Entries that are changed one by one are found under their names. -/
theorem find?_map_entries (g : Text → Logger → Logger) (entries : List (Text × Logger)) (n : Text) :
    ((entries.map fun entry => (entry.1, g entry.1 entry.2)).find? (·.1 == n)).map (·.2)
      = ((entries.find? (·.1 == n)).map (·.2)).map (g n) := by
  induction entries with
  | nil => rfl
  | cons entry entries ih =>
      rw [List.map_cons, List.find?_cons, List.find?_cons]
      cases h : entry.1 == n with
      | true =>
          rw [← beq_iff_eq.1 h]
          rfl
      | false => exact ih

/-- A change of a logger that is not the root is a change entry by entry. -/
theorem update_of_not_isRootName (h : isRootName name = false) (change : Logger → Logger) :
    j.update name change = { j with loggers := j.loggers.map fun entry =>
      (entry.1, if entry.1 = name then change entry.2 else entry.2) } := by
  have hentries : (j.loggers.map fun entry =>
        if entry.1 = name then (name, change entry.2) else entry)
      = j.loggers.map fun entry =>
        (entry.1, if entry.1 = name then change entry.2 else entry.2) := by
    refine List.map_congr_left ?_
    intro entry _
    by_cases he : entry.1 = name
    · rw [if_pos he, if_pos he, he]
    · rw [if_neg he, if_neg he]
  rw [update, h, if_neg (by simp), hentries]

/-- The logger of a name is changed, and no other one. -/
theorem find?_update (change : Logger → Logger) :
    (j.update name change).find? n
      = (j.find? n).map fun l => if SameLogger n name then change l else l := by
  -- the root is kept beside the entries, so either name may be one of its own
  cases hname : isRootName name with
  | true =>
      rw [update, if_pos hname]
      cases hn : isRootName n with
      | true =>
          have hsame : SameLogger n name := Or.inr ⟨hn, hname⟩
          rw [find?_of_isRootName _ hn, find?_of_isRootName _ hn, Option.map_some, if_pos hsame]
      | false =>
          have hother : ¬ SameLogger n name := not_sameLogger (by rw [hn, hname]; simp)
          rw [find?_of_not_isRootName _ hn, find?_of_not_isRootName _ hn]
          simp only [if_neg hother, Option.map_id']
  | false =>
      rw [update_of_not_isRootName j hname]
      cases hn : isRootName n with
      | true =>
          have hother : ¬ SameLogger n name := not_sameLogger (by rw [hn, hname]; simp)
          rw [find?_of_isRootName _ hn, find?_of_isRootName _ hn, Option.map_some, if_neg hother]
      | false =>
          rw [find?_of_not_isRootName _ hn, find?_of_not_isRootName _ hn,
            find?_map_entries fun m l => if m = name then change l else l]
          simp only [sameLogger_iff hn]

theorem find?_forget : j.forget.find? n = (j.find? n).map fun l => { l with answers := [] } := by
  cases hn : isRootName n with
  | true => rw [find?_of_isRootName _ hn, find?_of_isRootName _ hn, Option.map_some, forget]
  | false =>
      rw [find?_of_not_isRootName _ hn, find?_of_not_isRootName _ hn]
      exact find?_map_entries (fun _ l => { l with answers := [] }) j.loggers n

/-- The logger of a name has been entered. -/
def IsEntered (j : Journal) (name : Text) : Prop := (j.find? name).isSome = true

theorem isEntered_rootName : j.IsEntered rootName := rfl

theorem isEntered_forget (h : j.IsEntered n) : j.forget.IsEntered n := by
  rw [IsEntered, find?_forget, Option.isSome_map]
  exact h

theorem isEntered_update {change : Logger → Logger} (h : j.IsEntered n) :
    (j.update name change).IsEntered n := by
  rw [IsEntered, find?_update, Option.isSome_map]
  exact h

theorem isEntered_enter (name : Text) : (j.enter name).IsEntered name := by
  rw [enter]
  split
  · next h => exact h
  · next h =>
      cases hname : isRootName name with
      | true => exact absurd (by rw [find?_of_isRootName j hname]; rfl) h
      | false =>
          rw [IsEntered, find?_of_not_isRootName _ hname, Option.isSome_map, List.find?_isSome]
          exact ⟨_, List.mem_append_right _ (List.mem_singleton.2 rfl), beq_self_eq_true name⟩

end Entries

/-! ## Settings -/

/-- The level and the handlers of a logger. -/
def Logger.setting (l : Logger) : Level × List Handler := (l.level, l.handlers)

/-- The level and the handlers of the logger of a name. -/
def setting (j : Journal) (name : Text) : Level × List Handler := (j.logger name).setting

section Settings

variable (j : Journal) (name n : Text)

/-- A logger that has not been entered is taken for one that nothing has been done to. -/
theorem setting_eq : j.setting n = ((j.find? n).map Logger.setting).getD (.unset, []) := by
  rw [setting, logger]
  cases j.find? n <;> rfl

theorem setting_of_isRootName (h : isRootName n = true) :
    j.setting n = (j.root.level, j.root.handlers) := by
  rw [setting_eq, find?_of_isRootName j h]
  rfl

theorem setting_of_sameLogger {n name : Text} (h : SameLogger n name) :
    j.setting n = j.setting name := by
  rcases h with rfl | ⟨hn, hname⟩
  · rfl
  · rw [setting_of_isRootName j n hn, setting_of_isRootName j name hname]

theorem setting_forget : j.forget.setting n = j.setting n := by
  rw [setting_eq, setting_eq, find?_forget, Option.map_map]
  rfl

theorem moveBelow_eq (l : Logger) :
    moveBelow name n l = (n, (moveBelow name n l).2) ∧
      (moveBelow name n l).2.setting = l.setting := by
  rw [moveBelow]
  split <;> exact ⟨rfl, rfl⟩

/-- Entering a logger changes no setting. -/
theorem setting_enter : (j.enter name).setting n = j.setting n := by
  rw [enter]
  split
  · rfl
  · cases hn : isRootName n with
    | true => rw [setting_of_isRootName _ n hn, setting_of_isRootName _ n hn]
    | false =>
        have hmap : (j.loggers.map fun entry => moveBelow name entry.1 entry.2)
            = j.loggers.map fun entry => (entry.1, (moveBelow name entry.1 entry.2).2) :=
          List.map_congr_left fun entry _ => (moveBelow_eq name entry.1 entry.2).1
        -- the new entry stands behind the others, so it counts only where there was none
        rw [setting_eq, setting_eq, find?_of_not_isRootName _ hn, find?_of_not_isRootName _ hn,
          hmap, List.find?_append, Option.map_or,
          find?_map_entries fun m l => (moveBelow name m l).2]
        cases j.loggers.find? (·.1 == n) with
        | some entry => exact (moveBelow_eq name n entry.2).2
        | none =>
            rw [Option.map_none, Option.map_none, Option.none_or, List.find?_singleton]
            split <;> rfl

variable {j name}

/-- A change of the setting of one logger. -/
theorem setting_update {change : Logger → Logger}
    {f : Level × List Handler → Level × List Handler}
    (hf : ∀ l, (change l).setting = f l.setting) (h : j.IsEntered name) :
    (j.update name change).setting n
      = if SameLogger n name then f (j.setting n) else j.setting n := by
  rw [setting_eq, setting_eq, find?_update, Option.map_map]
  by_cases hn : SameLogger n name
  · have hentered : (j.find? n).isSome = true := by
      rcases hn with rfl | ⟨hn, -⟩
      · exact h
      · rw [find?_of_isRootName j hn]
        rfl
    obtain ⟨l, hl⟩ := Option.isSome_iff_exists.1 hentered
    rw [if_pos hn, hl, Option.map_some, Option.map_some, Option.getD_some, Option.getD_some,
      Function.comp_apply, if_pos hn, hf]
  · rw [if_neg hn]
    congr 2
    funext l
    rw [Function.comp_apply, if_neg hn]

theorem setting_addHandler (h : j.IsEntered name) (handler : Handler) :
    (j.addHandler name handler).setting n
      = if SameLogger n name then ((j.setting n).1, (j.setting n).2 ++ [handler])
        else j.setting n :=
  setting_update n (f := fun s => (s.1, s.2 ++ [handler])) (fun _ => rfl) h

theorem setting_setLoggerLevel (h : j.IsEntered name) (level : Level) :
    (j.setLoggerLevel name level).setting n
      = if SameLogger n name then (level, (j.setting n).2) else j.setting n := by
  rw [setLoggerLevel, setting_forget]
  exact setting_update n (f := fun s => (level, s.2)) (fun _ => rfl) h

variable (j)

theorem setting_clearRoot :
    j.clearRoot.setting n = if isRootName n then ((j.setting n).1, []) else j.setting n := by
  cases hn : isRootName n with
  | true =>
      rw [setting_of_isRootName _ n hn, setting_of_isRootName _ n hn, if_pos rfl, clearRoot]
  | false =>
      rw [setting_eq, setting_eq, find?_of_not_isRootName _ hn, find?_of_not_isRootName _ hn,
        if_neg (by simp), clearRoot]

end Settings

/-! ## Logging -/

/-- A sink as it was given to a handler; a file that has been begun anew is open under another
number. -/
def Sink.asGiven : Sink → Sink
  | .file path maxBytes backups _ => .file path maxBytes backups 0
  | sink => sink

/-- A handler as it was given to a logger. -/
def Handler.asGiven (h : Handler) : Handler := { h with sink := h.sink.asGiven }

theorem asGiven_write (text : Text) (w : Outlets) (sink : Sink) :
    (sink.write text w).1.asGiven = sink.asGiven := by
  cases sink <;> rfl

theorem asGiven_handle (time : Text) (r : Record) (h : Handler) (w : Outlets) :
    (h.handle time r w).1.asGiven = h.asGiven := by
  rw [Handler.handle]
  split
  · rw [Handler.asGiven, asGiven_write, Handler.asGiven]
  · rfl

theorem map_asGiven_handleAll (time : Text) (r : Record) (hs : List Handler) (w : Outlets) :
    (handleAll time r hs w).1.map Handler.asGiven = hs.map Handler.asGiven := by
  induction hs generalizing w with
  | nil => rfl
  | cons h hs ih =>
      rw [handleAll, List.map_cons, List.map_cons, asGiven_handle, ih]

/-- The handlers of the logger of a name as they were given to it. -/
def given (j : Journal) (name : Text) : List Handler := (j.setting name).2.map Handler.asGiven

section Logging

variable (j : Journal) (r : Record) (name n : Text)

/-- A change of a logger that leaves its handlers as they were given. -/
theorem given_update {change : Logger → Logger}
    (h : ∀ l, j.find? name = some l →
      (change l).handlers.map Handler.asGiven = l.handlers.map Handler.asGiven) :
    (j.update name change).given n = j.given n := by
  have hfind : SameLogger n name → j.find? n = j.find? name := by
    rintro (rfl | ⟨hn, hname⟩)
    · rfl
    · rw [find?_of_isRootName j hn, find?_of_isRootName j hname]
  rw [given, given, setting_eq, setting_eq, find?_update]
  cases hl : j.find? n with
  | none => rfl
  | some l =>
      rw [Option.map_some, Option.map_some, Option.map_some, Option.getD_some, Option.getD_some]
      split
      · next hn => exact h l (by rw [← hfind hn, hl])
      · rfl

theorem given_handleAt : (handleAt r j name).given n = j.given n := by
  rw [handleAt]
  refine given_update _ name n ?_
  intro l hl
  have hlogger : j.logger name = l := by
    rw [logger, show j.find? name = some l from hl]
    rfl
  rw [hlogger]
  exact map_asGiven_handleAll _ _ _ _

/-- Logging leaves the handlers as they were given. -/
theorem given_deliver : (j.deliver name r).given n = j.given n := by
  have hfold : ∀ (names : List Text) (k : Journal),
      (names.foldl (handleAt r) k).given n = k.given n := by
    intro names
    induction names with
    | nil => exact fun _ => rfl
    | cons name names ih =>
        intro k
        rw [List.foldl_cons, ih, given_handleAt]
  rw [deliver]
  split
  · rw [lastResort]
    split <;> rfl
  · exact hfold _ _

theorem given_log (level : Level) (message : Text) :
    (j.log name level message).given n = j.given n := by
  have hremember : ((j.enter name).remember name level).given n = j.given n := by
    have hkeeps : ∀ (k : Journal) answer, (k.update name fun l =>
        if l.answers.contains answer then l else { l with answers := answer :: l.answers }).given n
          = k.given n := by
      intro k answer
      refine given_update k name n ?_
      intro l _
      split <;> rfl
    rw [remember, hkeeps, given, setting_enter, given]
  rw [log]
  split
  · rw [given_deliver, hremember]
  · exact hremember

theorem given_logNotes (notes : List Note) : (j.logNotes notes).given n = j.given n := by
  induction notes generalizing j with
  | nil => rfl
  | cons note notes ih =>
      rw [logNotes, List.foldl_cons]
      exact (ih _).trans (given_log _ _ _ _ _)

end Logging

end Prepress.Journal
