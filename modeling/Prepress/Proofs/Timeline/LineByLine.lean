/-
# Reading line by line

A timeline can be read line by line.  What has been read so far is a document: a line with a title
gives it that title, a heading opens a section, and a task goes to the end of the last section, if
there is one (`Document.add`).  Going through all lines of a text gives the document that the text
describes (`ofEntries_eq_foldl`), so a text with more lines after it is read on from where it ended
(`read_append_break`).

* `Document.foldl_add` : what more entries make of a document;
* `Document.read_append_heading` : what begins with a heading adds its sections and leaves those
  before it alone.
-/
import Prepress.Proofs.Text.Lines
import Prepress.Proofs.Timeline.Reading
import Prepress.Proofs.Timeline.TaskLine

namespace Prepress.Timeline

open Text

/-! ## Tasks at the end of the last section -/

section Steps

variable {α : Type}

/-- Sections with more tasks at the end of the last one; without a section the tasks are lost. -/
def extended : List (Section α) → List (Task α) → List (Section α)
  | [], _ => []
  | [s], tasks => [⟨s.name, s.tasks ++ tasks⟩]
  | s :: s' :: ss, tasks => s :: extended (s' :: ss) tasks

theorem extended_concat (ss : List (Section α)) (s : Section α) (tasks : List (Task α)) :
    extended (ss ++ [s]) tasks = ss ++ [⟨s.name, s.tasks ++ tasks⟩] := by
  induction ss with
  | nil => rfl
  | cons s' ss ih =>
      obtain ⟨s'', ss', hss⟩ : ∃ s'' ss', ss ++ [s] = s'' :: ss' :=
        List.exists_cons_of_ne_nil (by simp)
      rw [hss] at ih
      rw [List.cons_append, hss, extended, ih, List.cons_append]

theorem extended_nil (ss : List (Section α)) : extended ss [] = ss := by
  rcases List.eq_nil_or_concat ss with rfl | ⟨ss, s, rfl⟩
  · rfl
  · rw [List.concat_eq_append, extended_concat, List.append_nil]

/-- Tasks may be put at the end in two goes. -/
theorem extended_append (ss : List (Section α)) (first second : List (Task α)) :
    extended ss (first ++ second) = extended (extended ss first) second := by
  rcases List.eq_nil_or_concat ss with rfl | ⟨ss, s, rfl⟩
  · rfl
  · rw [List.concat_eq_append, extended_concat, extended_concat, extended_concat,
      List.append_assoc]

/-! ## Entry by entry -/

/-- A document of which nothing has been read yet. -/
def Document.blank : Document α := ⟨none, []⟩

/-- What has been read so far, with one more entry. -/
def Document.add (d : Document α) : Entry α → Document α
  | .title value => ⟨some value, d.sections⟩
  | .heading name => ⟨d.title, d.sections ++ [⟨name, []⟩]⟩
  | .task _ (.ok task) => ⟨d.title, extended d.sections [task]⟩
  | .task _ (.error _) => d
  | .ignored => d
  | .unrecognized _ => d

/-- The title that an entry gives. -/
def Entry.title? : Entry α → Option Text
  | .title value => some value
  | _ => none

theorem lastTitle_cons (e : Entry α) (es : List (Entry α)) :
    lastTitle (e :: es) = (lastTitle es).or e.title? := by
  cases e <;> rfl

theorem Document.title_add (d : Document α) (e : Entry α) :
    (d.add e).title = e.title?.or d.title := by
  cases e with
  | task line outcome => cases outcome <;> rfl
  | _ => rfl

/-- An entry may be added to the sections before it, or gathered with the entries after it. -/
theorem Document.sections_add (d : Document α) (e : Entry α) (es : List (Entry α)) :
    extended (d.add e).sections (gather es).1 ++ (gather es).2
      = extended d.sections (gather (e :: es)).1 ++ (gather (e :: es)).2 := by
  cases e with
  | title value => rfl
  | ignored => rfl
  | heading name =>
      show extended (d.sections ++ [⟨name, []⟩]) (gather es).1 ++ (gather es).2
        = extended d.sections [] ++ ⟨name, (gather es).1⟩ :: (gather es).2
      rw [extended_concat, extended_nil, List.append_assoc]
      rfl
  | unrecognized line => rfl
  | task line outcome =>
      cases outcome with
      | error note => rfl
      | ok task =>
          show extended (extended d.sections [task]) (gather es).1 ++ (gather es).2
            = extended d.sections (task :: (gather es).1) ++ (gather es).2
          rw [← extended_append, List.singleton_append]

/-- More entries put their tasks before the first heading at the end of the last section, and add
their sections after it; a title among them takes the place of the one before. -/
theorem Document.foldl_add (es : List (Entry α)) (d : Document α) :
    es.foldl Document.add d
      = ⟨(lastTitle es).or d.title, extended d.sections (gather es).1 ++ (gather es).2⟩ := by
  induction es generalizing d with
  | nil =>
      rw [List.foldl_nil, lastTitle, Option.none_or, gather, extended_nil, List.append_nil]
  | cons e es ih =>
      rw [List.foldl_cons, ih, title_add, ← Option.or_assoc, ← lastTitle_cons, sections_add]

/-- The document that entries make up is what reading them one by one gives. -/
theorem Document.ofEntries_eq_foldl (es : List (Entry α)) :
    Document.ofEntries es = es.foldl Document.add .blank := by
  rw [Document.foldl_add, Document.blank, Option.or_none, extended, List.nil_append,
    Document.ofEntries]

end Steps

/-! ## Texts put together -/

section Texts

variable {α : Type} [Measure α] {directives : List Text}

theorem entries_append_break (a b : Text) :
    (entries directives (a ++ '\n' :: b) : List (Entry α))
      = entries directives a ++ entries directives b := by
  rw [entries, contentLines_append_break (by decide), List.map_append, entries, entries]

/-- After a text, the next one is read on from where the first one ended. -/
theorem Document.read_append_break (a b : Text) :
    (Document.read directives (a ++ '\n' :: b) : Document α)
      = (entries directives b).foldl Document.add (Document.read directives a) := by
  rw [Document.read, entries_append_break, Document.ofEntries_eq_foldl, List.foldl_append,
    ← Document.ofEntries_eq_foldl, Document.read]

/-- **Sections are independent.**  Lines that begin with a heading add their own sections, whatever
stands before them, and the last title counts. -/
theorem Document.read_append_heading {a b l name : Text} (hfirst : (contentLines b).head? = some l)
    (hl : Line.classify directives l = some (.heading name)) :
    (Document.read directives (a ++ '\n' :: b) : Document α).sections
        = (Document.read directives a).sections ++ (Document.read directives b).sections ∧
      (Document.read directives (a ++ '\n' :: b) : Document α).title
        = (Document.read (α := α) directives b).title.or
            (Document.read (α := α) directives a).title := by
  obtain ⟨ls, hls⟩ := List.head?_eq_some_iff.1 hfirst
  have hentries : (entries directives b : List (Entry α))
      = .heading name :: ls.map (Entry.ofLine directives) := by
    rw [entries, hls, List.map_cons, Entry.ofLine, hl]
  -- nothing of the second text stands before its first heading
  have hloose : (gather (entries directives b : List (Entry α))).1 = [] := by
    rw [hentries]
    rfl
  rw [Document.read_append_break, Document.foldl_add, hloose, extended_nil]
  exact ⟨rfl, rfl⟩

/-- A text with a title, a task that stands before every heading, and a section; its last line ends
with a carriage return. -/
def firstPart : Text :=
  "title Plan\nLost :l1, 2025-01-01, 1d\nsection One\nA :a1, 2025-01-02, 2d\r".toList

/-- A text with a blank line, a section, a line that is not recognized, and another title. -/
def secondPart : Text := "\n \u2028 SECTION Two\nB :b1, 2025-01-03\n???\r\ntitle Final".toList

theorem Document.read_append_heading_twoParts :
    (contentLines secondPart).head? = some "SECTION Two".toList ∧
      Line.classify standardDirectives "SECTION Two".toList = some (.heading "Two".toList) ∧
      (Document.read standardDirectives (firstPart ++ '\n' :: secondPart) :
          Document Float).sections
        = (Document.read standardDirectives firstPart).sections
          ++ (Document.read standardDirectives secondPart).sections ∧
      (Document.read standardDirectives (firstPart ++ '\n' :: secondPart) : Document Float).title
        = (Document.read (α := Float) standardDirectives secondPart).title.or
            (Document.read (α := Float) standardDirectives firstPart).title := by
  have hfirst : (contentLines secondPart).head? = some "SECTION Two".toList := by decide +kernel
  have hl : Line.classify standardDirectives "SECTION Two".toList
      = some (.heading "Two".toList) := by
    decide +kernel
  exact ⟨hfirst, hl, Document.read_append_heading hfirst hl⟩

end Texts

end Prepress.Timeline
