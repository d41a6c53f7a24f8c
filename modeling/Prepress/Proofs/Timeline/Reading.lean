/-
# What a timeline is read from

Reading a timeline only takes texts out of it: the title, the names of sections and the labels of
tasks are parts of the text, each in one piece (`isInfix_of_mem_texts`).  So they lie within every
class of characters that the text lies within (`isWithin_ofEntries`).  The tasks that are read end
within the calendar (`isSome_finish?_of_read`); parts with a date, and with an end within the
calendar, describe a task (`Task.ofParts_eq_ok`).
-/
import Prepress.Proofs.Text.Sublist
import Prepress.Proofs.Text.Within
import Prepress.Timeline.Reading

namespace Prepress.Timeline

open Text
open scoped List

variable {α : Type} {P : Char → Prop}

/-! ## Lines -/

/-- The texts of a line that are shown. -/
def Line.texts : Line → List Text
  | .title value => [value]
  | .ignored _ => []
  | .heading name => [name]
  | .task label _ => [label]

theorem isInfix_of_argument? {keyword line value : Text}
    (h : Line.argument? keyword line = some value) : value <:+: line := by
  rw [Line.argument?] at h
  split at h
  · rw [← Option.some.inj h]
    exact (trim_isInfix _).trans (List.drop_suffix _ _).isInfix
  · simp at h

/-- A line is read from its own text. -/
theorem Line.isInfix_of_classify {directives : List Text} {text t : Text} {line : Line}
    (h : Line.classify directives text = some line) (ht : t ∈ line.texts) : t <:+: text := by
  rw [Line.classify] at h
  split at h
  · next value hv =>
      rw [← Option.some.inj h] at ht
      rw [List.mem_singleton.1 ht]
      exact isInfix_of_argument? hv
  · split at h
    · rw [← Option.some.inj h] at ht
      exact absurd ht List.not_mem_nil
    · split at h
      · next name hn =>
          rw [← Option.some.inj h] at ht
          rw [List.mem_singleton.1 ht]
          exact isInfix_of_argument? hn
      · obtain ⟨⟨label, parts⟩, hl, rfl⟩ := Option.map_eq_some_iff.1 h
        obtain ⟨⟨before, rest⟩, hc, he⟩ := Option.map_eq_some_iff.1 hl
        rw [Prod.mk.injEq] at he
        rw [List.mem_singleton.1 ht, ← he.1]
        exact (trim_isInfix before).trans (prefix_of_cut? hc).isInfix

/-! ## Entries -/

/-- The texts of an entry that are shown. -/
def Entry.texts : Entry α → List Text
  | .title value => [value]
  | .heading name => [name]
  | .task _ (.ok t) => [t.label]
  | _ => []

/-- A task keeps the label that it is described with. -/
theorem Task.label_of_ofParts [Measure α] {label : Text} {parts : List Text} {task : Task α}
    (h : Task.ofParts label parts = .ok task) : task.label = label := by
  unfold Task.ofParts at h
  split at h
  · split at h
    · simp at h
    · simp only at h
      split at h
      · simp at h
      · rw [← Except.ok.inj h]
  · simp at h

theorem Entry.isInfix_of_ofLine [Measure α] {directives : List Text} {text t : Text}
    (ht : t ∈ (Entry.ofLine (α := α) directives text).texts) : t <:+: text := by
  rw [Entry.ofLine] at ht
  cases hl : Line.classify directives text with
  | none =>
      rw [hl] at ht
      exact absurd ht List.not_mem_nil
  | some line =>
      rw [hl] at ht
      refine Line.isInfix_of_classify hl ?_
      cases line with
      | title value => exact ht
      | ignored directive => exact absurd ht List.not_mem_nil
      | heading name => exact ht
      | task label parts =>
          cases ho : Task.ofParts (α := α) label parts with
          | error note =>
              change t ∈ Entry.texts (.task text (Task.ofParts label parts)) at ht
              rw [ho] at ht
              exact absurd ht List.not_mem_nil
          | ok task =>
              change t ∈ Entry.texts (.task text (Task.ofParts label parts)) at ht
              rw [ho] at ht
              show t ∈ [label]
              rw [← Task.label_of_ofParts ho]
              exact ht

/-! ## Documents -/

/-- The texts of a section. -/
def Section.texts (s : Section α) : List Text := s.name :: s.tasks.map (·.label)

/-- The texts of a document. -/
def Document.texts (d : Document α) : List Text :=
  d.title.toList ++ d.sections.flatMap Section.texts

theorem exists_entry_of_lastTitle {es : List (Entry α)} {t : Text} (h : lastTitle es = some t) :
    ∃ e ∈ es, t ∈ e.texts := by
  induction es with
  | nil => simp [lastTitle] at h
  | cons e es ih =>
      unfold lastTitle at h
      rw [Option.or_eq_some_iff] at h
      rcases h with h | ⟨-, h⟩
      · obtain ⟨e', he', ht⟩ := ih h
        exact ⟨e', List.mem_cons_of_mem e he', ht⟩
      · refine ⟨e, by simp, ?_⟩
        cases e with
        | title value => exact List.mem_singleton.2 (Option.some.inj h).symm
        | ignored => simp at h
        | heading name => simp at h
        | unrecognized line => simp at h
        | task line outcome => simp at h

/-- Gathering the entries brings in no text, neither before the first heading nor after it. -/
theorem exists_entry_of_gather {es : List (Entry α)} {t : Text}
    (h : t ∈ (gather es).1.map (·.label) ++ (gather es).2.flatMap Section.texts) :
    ∃ e ∈ es, t ∈ e.texts := by
  induction es with
  | nil => simp [gather] at h
  | cons e es ih =>
      -- a text is that of the first entry, or it has been gathered before
      have hsplit : t ∈ e.texts ∨
          t ∈ (gather es).1.map (·.label) ++ (gather es).2.flatMap Section.texts := by
        cases e with
        | heading name =>
            rw [List.mem_append] at h
            rcases h with h | h
            · exact absurd h List.not_mem_nil
            · rcases List.mem_cons.1 h with h | h
              · exact Or.inl (List.mem_singleton.2 h)
              · exact Or.inr h
        | task line outcome =>
            cases outcome with
            | error note => exact Or.inr h
            | ok task =>
                rcases List.mem_cons.1 h with h | h
                · exact Or.inl (List.mem_singleton.2 h)
                · exact Or.inr h
        | title value => exact Or.inr h
        | ignored => exact Or.inr h
        | unrecognized line => exact Or.inr h
      rcases hsplit with h | h
      · exact ⟨e, by simp, h⟩
      · obtain ⟨e', he', ht⟩ := ih h
        exact ⟨e', List.mem_cons_of_mem e he', ht⟩

/-- All texts of a document are parts of the text that it is read from. -/
theorem Document.isInfix_of_mem_texts [Measure α] {directives : List Text} {text t : Text}
    (h : t ∈ (Document.ofEntries (entries (α := α) directives text)).texts) : t <:+: text := by
  have hentry : ∃ e ∈ entries (α := α) directives text, t ∈ e.texts := by
    rcases List.mem_append.1 h with h | h
    · exact exists_entry_of_lastTitle (Option.mem_toList.1 h)
    · exact exists_entry_of_gather (List.mem_append_right _ h)
  obtain ⟨e, he, ht⟩ := hentry
  obtain ⟨line, hl, rfl⟩ := List.mem_map.1 he
  exact (Entry.isInfix_of_ofLine ht).trans (isInfix_of_mem_contentLines hl)

/-! ## Tasks -/

/-- Every task of the sections comes from an entry. -/
theorem exists_entry_of_mem_gather {es : List (Entry α)} {t : Task α}
    (h : t ∈ (gather es).1 ++ (gather es).2.flatMap (·.tasks)) :
    ∃ line, Entry.task line (.ok t) ∈ es := by
  induction es with
  | nil => simp [gather] at h
  | cons e es ih =>
      -- the task is that of the first entry, or it has been gathered before
      have hsplit : (∃ line, e = .task line (.ok t)) ∨
          t ∈ (gather es).1 ++ (gather es).2.flatMap (·.tasks) := by
        cases e with
        | heading name => exact Or.inr h
        | task line outcome =>
            cases outcome with
            | error note => exact Or.inr h
            | ok task =>
                rcases List.mem_cons.1 h with rfl | h
                · exact Or.inl ⟨line, rfl⟩
                · exact Or.inr h
        | title value => exact Or.inr h
        | ignored => exact Or.inr h
        | unrecognized line => exact Or.inr h
      rcases hsplit with ⟨line, rfl⟩ | h
      · exact ⟨line, List.mem_cons_self⟩
      · obtain ⟨line, hm⟩ := ih h
        exact ⟨line, List.mem_cons_of_mem e hm⟩

/-- A token with a whole number that is not one of hours gives as many days. -/
theorem Duration.read_eq_days [Measure α] {token identifier whole : Text}
    (hmilestone :
      (isMilestoneToken token.trim.lower || isMilestoneIdentifier identifier.trim) = false)
    (hnumeral : firstNumeral? token.trim.lower = some (whole, []))
    (hunit : token.trim.lower.getLast? ≠ some 'h') :
    Duration.read token identifier = (⟨Measure.ofInt (digitsToNat whole), false⟩ : Duration α) := by
  rw [Duration.read, hmilestone, if_neg (by simp), daysOf, hnumeral, if_neg hunit]
  dsimp only
  rw [List.append_nil]
  rfl

/-- Parts with a readable date describe a task, if the calendar reaches its end. -/
theorem Task.ofParts_eq_ok [Measure α] {label identifier date : Text} {rest : List Text}
    {start : Instant} (hdate : Calendar.instant? date = some start) {d : Duration α}
    (hduration : Duration.read (rest.headD defaultDuration) identifier = d)
    (hfinish : (⟨label, start, d.days, d.milestone⟩ : Task α).finish?.isSome = true) :
    Task.ofParts label (identifier :: date :: rest)
      = .ok ⟨label, start, d.days, d.milestone⟩ := by
  obtain ⟨finish, hfinish⟩ := Option.isSome_iff_exists.1 hfinish
  rw [Task.ofParts, hdate]
  dsimp only
  rw [hduration, hfinish]

/-- A task that parts describe ends within the calendar. -/
theorem Task.isSome_finish?_of_ofParts [Measure α] {label : Text} {parts : List Text}
    {task : Task α} (h : Task.ofParts label parts = .ok task) : task.finish?.isSome = true := by
  unfold Task.ofParts at h
  split at h
  · split at h
    · simp at h
    · simp only at h
      split at h
      · simp at h
      · next finish hfinish =>
          rw [← Except.ok.inj h, hfinish]
          rfl
  · simp at h

/-- Every task that is read from a text ends within the calendar. -/
theorem Document.isSome_finish?_of_read [Measure α] {directives : List Text} {text : Text}
    {t : Task α} (h : t ∈ (Document.read directives text).tasks) : t.finish?.isSome = true := by
  obtain ⟨line, he⟩ := exists_entry_of_mem_gather (List.mem_append_right _ h)
  obtain ⟨l, -, hl⟩ := List.mem_map.1 he
  unfold Entry.ofLine at hl
  split at hl
  · simp at hl
  · simp at hl
  · simp at hl
  · simp at hl
  · exact Task.isSome_finish?_of_ofParts (Entry.task.inj hl).2

/-! ## Texts within a class -/

/-- All texts of a document lie within a class of characters. -/
structure Document.IsWithin (P : Char → Prop) (d : Document α) : Prop where
  title : ∀ t ∈ d.title, Within P t
  names : ∀ s ∈ d.sections, Within P s.name
  labels : ∀ s ∈ d.sections, ∀ task ∈ s.tasks, Within P task.label

/-- A document is read from its text. -/
theorem Document.isWithin_ofEntries [Measure α] {directives : List Text} {text : Text}
    (ht : Within P text) : (Document.ofEntries (entries (α := α) directives text)).IsWithin P := by
  have htexts : ∀ t ∈ (Document.ofEntries (entries (α := α) directives text)).texts, Within P t :=
    fun t h => ht.sublist (isInfix_of_mem_texts h).sublist
  have hsection : ∀ s ∈ (Document.ofEntries (entries (α := α) directives text)).sections,
      ∀ t ∈ s.texts, Within P t := by
    intro s hs t h
    exact htexts t (List.mem_append_right _ (List.mem_flatMap.2 ⟨s, hs, h⟩))
  constructor
  · intro t h
    exact htexts t (List.mem_append_left _ (Option.mem_toList.2 h))
  · intro s hs
    exact hsection s hs s.name (by simp [Section.texts])
  · intro s hs task h
    exact hsection s hs task.label (List.mem_cons_of_mem _ (List.mem_map_of_mem h))

end Prepress.Timeline
