/-
# Listing the fields of a file

The names of the fields are printed one on a line or within an object, and both forms tell the same
names (`ending_fields`).  No name holds a blank, so none holds the boundary of a line, whatever the
manuscript is made of.
-/
import Prepress.Proofs.Command.Data
import Prepress.Proofs.Command.Steps
import Prepress.Proofs.Manuscript.LineEnds
import Prepress.Proofs.Signature.Collisions
import Prepress.Proofs.Signature.Html
import Prepress.Proofs.Text.Lines

namespace Prepress

open Text

/-! ## Names on lines -/

/-- Lines that are ended by line feeds, and hold no boundary of a line themselves. -/
theorem Text.lines_flatMap {ls : List Text} (h : ∀ l ∈ ls, ∀ c ∈ l, isLineBreak c = false) :
    lines (ls.flatMap fun l => l ++ ['\n']) = ls := by
  induction ls with
  | nil => rfl
  | cons l ls ih =>
      obtain ⟨hl, hls⟩ := List.forall_mem_cons.1 h
      rw [List.flatMap_cons, List.append_assoc, List.singleton_append,
        lines_line hl (by decide) (by simp), ih hls]

/-- The name of a field holds no boundary of a line. -/
theorem Manuscript.isLineBreak_of_mem_fieldNames {options : Signature.Options} {t name : Text}
    (hname : name ∈ fieldNames options t) {c : Char} (hc : c ∈ name) : isLineBreak c = false := by
  rw [fieldNames, List.mem_flatMap] at hname
  obtain ⟨body, -, hname⟩ := hname
  rw [Signature.blockFields, Signature.fieldNames, List.mem_flatMap] at hname
  obtain ⟨s, -, hname⟩ := hname
  obtain ⟨row, -, hname⟩ := List.mem_flatMap.1 hname
  obtain ⟨cell, hcell, rfl⟩ := List.mem_map.1 hname
  obtain ⟨-, column, -, index, hidentifier⟩ :=
    Signature.exists_of_mem_cells (List.mem_of_mem_filter hcell)
  rw [hidentifier] at hc
  have hblank := Field.not_isBlank_of_mem_identifier hc
  by_contra hbreak
  rw [isBlank_of_isLineBreak (Bool.not_eq_false _ ▸ hbreak)] at hblank
  cases hblank

namespace Command

open Journal

/-! ## The task -/

variable {j : Journal} {input : Path} {t : Text}

/-- Warnings are seen on the error output alone, also if one of them cannot be shown. -/
theorem kept_warnOf (names : List Text) (j : Journal) :
    (left (warnOf names j)).outlets.kept = j.outlets.kept := by
  induction names generalizing j with
  | nil => rfl
  | cons name names ih =>
      have hannounced := kept_announce "yellow" ("Duplicate field name: ".toList ++ name) j
      rw [warnOf]
      cases hannounce : announce "yellow" ("Duplicate field name: ".toList ++ name) j with
      | error interruption =>
          rw [hannounce] at hannounced
          exact hannounced
      | ok k =>
          rw [hannounce] at hannounced
          exact (ih k).trans hannounced

/-- Once a text has been read, its fields are listed in one of the two forms. -/
theorem exists_fields_eq (hj : j.IsQuiet) (h : j.outlets.store.IsText input t) :
    ∃ noted : Journal, noted.outlets.kept = j.outlets.kept ∧
      ∀ json, fields input json j
        = if json then
            .ok (noted.print ((Listing.ofText input (normalizeNewlines t)).object ++ ['\n']))
          else
            warnOf (Listing.ofText input (normalizeNewlines t)).duplicates
              (noted.print (Listing.ofText input (normalizeNewlines t)).plain) := by
  refine ⟨_, kept_logNotes hj (Manuscript.fieldNotes (normalizeNewlines t)), fun json => ?_⟩
  rw [fields]
  show (readInput input j >>= _) = _
  rw [readInput_of_isText h]
  rfl

/-! ## The command -/

/-- What `fields INPUT` and `fields INPUT --json` print of a file that holds a text, in whatever way
they are asked for.  The lines that the first prints, cut at any boundary of a line, are the names
that the second gives as the fields, those of the manuscript.  What it gives as duplicates are the
names that occur more than once, each of them once and in the order of their first occurrences. -/
theorem ending_fields {plain json : List Text} {input : Text}
    (hplain : Asks plain (.fields input false)) (hjson : Asks json (.fields input true))
    {s : Store} {t : Text} (ht : s.IsText (.ofText input) t) (now now' : Instant)
    (time time' : Text) :
    ∃ (j k : Journal) (data : Data) (names duplicates : List Text),
      (ending now plain (.initial time s)).journal? = some j ∧
      ending now' json (.initial time' s) = .ok (.finished 0 k) ∧
      Data.read? k.outlets.output = some data ∧
      data.member? "fields" = some (.list (names.map .string)) ∧
      data.member? "duplicates" = some (.list (duplicates.map .string)) ∧
      lines j.outlets.output = names ∧
      names = Manuscript.fieldNames Signature.Options.standard t ∧
      (∀ n, n ∈ duplicates ↔ 2 ≤ names.count n) ∧ duplicates.Nodup ∧
      duplicates.Pairwise fun m n => names.idxOf m < names.idxOf n := by
  obtain ⟨i, hi, hikept, hplain⟩ := exists_ending_eq hplain now time s
  obtain ⟨i', hi', hikept', hjson⟩ := exists_ending_eq hjson now' time' s
  dsimp only at hplain hjson
  have hti : i.outlets.store.IsText (.ofText input) t :=
    (show i.outlets.store = s from congrArg Prod.snd hikept) ▸ ht
  have hti' : i'.outlets.store.IsText (.ofText input) t :=
    (show i'.outlets.store = s from congrArg Prod.snd hikept') ▸ ht
  obtain ⟨noted, hkept, hfields⟩ := exists_fields_eq hi hti
  obtain ⟨noted', hkept', hfields'⟩ := exists_fields_eq hi' hti'
  let listing := Listing.ofText (.ofText input) (normalizeNewlines t)
  have houtput : noted.outlets.output = [] := congrArg Prod.fst (hkept.trans hikept)
  have houtput' : noted'.outlets.output = [] := congrArg Prod.fst (hkept'.trans hikept')
  have hwarned := kept_warnOf listing.duplicates (noted.print listing.plain)
  have hprinted : (left (warnOf listing.duplicates (noted.print listing.plain))).outlets.output
      = listing.plain := by
    refine (congrArg Prod.fst hwarned).trans ?_
    show noted.outlets.output ++ listing.plain = listing.plain
    rw [houtput]
    rfl
  refine ⟨left (warnOf listing.duplicates (noted.print listing.plain)),
    noted'.print (listing.object ++ ['\n']), listing.data, listing.fields, listing.duplicates,
    ?_, ?_, ?_, rfl, rfl, ?_, Manuscript.fieldNames_normalizeNewlines _ t,
    fun _ => Field.mem_collisions, Field.nodup_collisions _, Field.pairwise_collisions _⟩
  · rw [hplain, withInput_of_isText hti, hfields false]
    exact journal?_map 0 _
  · rw [hjson, withInput_of_isText hti', hfields' true]
    rfl
  · show Data.read? (noted'.outlets.output ++ (listing.object ++ ['\n'])) = some listing.data
    rw [houtput', List.nil_append]
    exact read?_object listing
  · rw [hprinted]
    exact lines_flatMap fun name hname c => Manuscript.isLineBreak_of_mem_fieldNames hname

/-- A block of two tables that have a field in common. -/
def twoTables : Text :=
  ("```signatures\n# A\n|F|B|\n|--|--|\n|N||\n"
    ++ "# A\n|F|B|\n|--|--|\n|N||\n|M||\n```").toList

/-- The fields of a file with such a block. -/
theorem ending_fields_twoTables :
    let now : Instant := ⟨63872530200000000, by decide⟩
    let asked (words : List String) : Ending :=
      ending now (words.map String.toList) (.initial "2025-01-15 09:30:00".toList
        (Store.empty.create ⟨[], ["a.md".toList]⟩ (encodeText twoTables)))
    ∃ (j k : Journal) (data : Data) (names duplicates : List Text),
      (asked ["fields", "a.md"]).journal? = some j ∧
      asked ["fields", "a.md", "--json"] = .ok (.finished 0 k) ∧
      Data.read? k.outlets.output = some data ∧
      data.member? "fields" = some (.list (names.map .string)) ∧
      data.member? "duplicates" = some (.list (duplicates.map .string)) ∧
      lines j.outlets.output = names ∧ names = ["A_B_N".toList, "A_B_N".toList, "A_B_M".toList] ∧
      "A_B_N".toList ∈ duplicates ∧ "A_B_M".toList ∉ duplicates := by
  intro now asked
  have hinput : IsWord "a.md".toList := by decide
  have ht : (Store.empty.create ⟨[], ["a.md".toList]⟩ (encodeText twoTables)).IsText
      (.ofText "a.md".toList) twoTables :=
    ⟨_, ⟨0, rfl, rfl⟩, Store.decodeText?_encodeText twoTables⟩
  obtain ⟨j, k, data, names, duplicates, hj, hk, hdata, hfields, hduplicates, hlines, hnames, hmem,
    -, -⟩ := ending_fields (asks_fields hinput) (asks_fields_json hinput) ht now now
      "2025-01-15 09:30:00".toList "2025-01-15 09:30:00".toList
  have hthree : names = ["A_B_N".toList, "A_B_N".toList, "A_B_M".toList] := by
    rw [hnames]
    decide +kernel
  refine ⟨j, k, data, names, duplicates, hj, hk, hdata, hfields, hduplicates, hlines, hthree, ?_,
    ?_⟩
  · rw [hmem, hthree]
    decide
  · rw [hmem, hthree]
    decide

end Command

end Prepress
