/-
# What command lines ask for

A command line asks for a task, here without a file for the journal (`Asks`).  It may do so in many
ways.  The plain ones have no options before the command, and the word behind the command is the
input unless it begins like an option: `asks_process`, `asks_process_output`, `asks_fields` and
`asks_fields_json`.
-/
import Prepress.Command.Arguments

namespace Prepress.Command

open Text

/-- A command line that asks for a task, and for no file for the journal. -/
def Asks (line : List Text) (task : Task) : Prop :=
  ∃ a, Arguments.read line = .ok a ∧ a.logFile = none ∧ a.task = some task

/-! ## Words -/

/-- A text that no option begins like. -/
def IsWord (t : Text) : Prop := t.head? ≠ some '-'

instance (t : Text) : Decidable (IsWord t) := by
  unfold IsWord
  infer_instance

variable {flags : List Flag} {t input output : Text} {ts : List Text}
variable {rest : List (Text × Token)} {f g : Found}

theorem token?_of_isWord (h : IsWord t) : token? flags t = some .word := by
  have hword : t.head? ≠ some '-' ∨ t.length = 1 := Or.inl h
  rw [token?, if_pos hword]

theorem tokens?_cons {token : Token} (hne : t ≠ ['-', '-']) (htoken : token? flags t = some token)
    (hrest : tokens? flags ts = some rest) :
    tokens? flags (t :: ts) = some ((t, token) :: rest) := by
  rw [tokens?, if_neg hne, htoken, hrest]
  rfl

theorem tokens?_word (h : IsWord t) (hrest : tokens? flags ts = some rest) :
    tokens? flags (t :: ts) = some ((t, .word) :: rest) := by
  refine tokens?_cons ?_ (token?_of_isWord h) hrest
  rintro rfl
  exact h rfl

/-- Arguments are taken for something one by one. -/
theorem map_fst_tokens? (h : tokens? flags ts = some rest) : rest.map (·.1) = ts := by
  induction ts generalizing rest with
  | nil =>
      cases h
      rfl
  | cons t ts ih =>
      rw [tokens?] at h
      split at h
      · cases h
        rw [List.map_cons, List.map_map]
        exact congrArg (t :: ·) (List.map_id ts)
      · obtain ⟨token, -, h⟩ := Option.bind_eq_some_iff.1 h
        obtain ⟨others, hothers, h⟩ := Option.bind_eq_some_iff.1 h
        cases h
        rw [List.map_cons, ih hothers]

/-! ## Commands -/

/-- The arguments of a command are not looked at before the command is known. -/
theorem asks_of_readTask {name : Text} {task : Task} (h : IsWord name)
    (hrest : tokens? generalFlags ts = some rest) (htask : readTask name ts = .ok task) :
    Asks (name :: ts) task := by
  refine ⟨⟨"WARNING".toList, true, none, some task⟩, ?_, rfl, rfl⟩
  rw [Arguments.read, tokens?_word h hrest]
  dsimp only
  rw [readGeneral]
  dsimp only
  rw [map_fst_tokens? hrest, htask]
  rfl

/-- What is found where an input comes first and nothing is left over behind it. -/
theorem readFound_eq (hinput : IsWord input) (htokens : tokens? flags ts = some rest)
    (hrest : dropSeparator rest = rest)
    (hfound : readCommand flags 1 rest { Found.nothing with words := [input] } = .ok f)
    (hdone : f.leftover = false ∧ f.words.length = 1) :
    readFound flags 1 (input :: ts) = .ok f := by
  have hcommand : readCommand flags 1 ((input, .word) :: rest) .nothing = .ok f := by
    rw [readCommand, hrest]
    exact (if_pos Nat.one_pos).trans hfound
  rw [readFound, tokens?_word hinput htokens]
  dsimp only
  rw [hcommand]
  dsimp only
  rw [hdone.1, hdone.2]
  rfl

/-- An option that is carried out. -/
theorem readCommand_option {wanted taken : Nat} {flag : Flag} {load : Load}
    (h : f.option flags flag load rest = .ok (g, taken)) :
    readCommand flags wanted ((t, .option flag load) :: rest) f
      = readCommand flags wanted (rest.drop taken) g := by
  rw [readCommand, h]

theorem readCommand_nil (wanted : Nat) (f : Found) : readCommand flags wanted [] f = .ok f := by
  rw [readCommand]

/-- The command line `process INPUT`. -/
theorem asks_process (h : IsWord input) :
    Asks ["process".toList, input] (.process input none none) := by
  have hfound : readFound processFlags 1 [input] = .ok ⟨[], [input], false⟩ :=
    readFound_eq h rfl rfl (readCommand_nil 1 _) ⟨rfl, rfl⟩
  refine asks_of_readTask (by decide) (tokens?_word h rfl) ?_
  rw [readTask, if_pos rfl, hfound]
  rfl

/-- The command line `process INPUT -o OUTPUT`. -/
theorem asks_process_output (hinput : IsWord input) (houtput : IsWord output) (hne : output ≠ []) :
    Asks ["process".toList, input, "-o".toList, output] (.process input (some output) none) := by
  have hflag : token? processFlags "-o".toList
      = some (.option ⟨"-o".toList, .output, .value⟩ .nothing) := rfl
  have hfound : readFound processFlags 1 [input, "-o".toList, output]
      = .ok ⟨[(.output, output)], [input], false⟩ :=
    readFound_eq hinput (tokens?_cons (by decide) hflag (tokens?_word houtput rfl)) rfl
      ((readCommand_option rfl).trans (readCommand_nil 1 _)) ⟨rfl, rfl⟩
  refine asks_of_readTask (by decide)
    (tokens?_word hinput (tokens?_cons (by decide) rfl (tokens?_word houtput rfl))) ?_
  obtain ⟨c, rest, rfl⟩ := List.exists_cons_of_ne_nil hne
  rw [readTask, if_pos rfl, hfound]
  rfl

/-- The command line `fields INPUT`. -/
theorem asks_fields (h : IsWord input) :
    Asks ["fields".toList, input] (.fields input false) := by
  have hfound : readFound fieldsFlags 1 [input] = .ok ⟨[], [input], false⟩ :=
    readFound_eq h rfl rfl (readCommand_nil 1 _) ⟨rfl, rfl⟩
  refine asks_of_readTask (by decide) (tokens?_word h rfl) ?_
  rw [readTask, if_neg (by decide), if_pos rfl, hfound]
  rfl

/-- The command line `fields INPUT --json`. -/
theorem asks_fields_json (h : IsWord input) :
    Asks ["fields".toList, input, "--json".toList] (.fields input true) := by
  have hflag : token? fieldsFlags "--json".toList
      = some (.option ⟨"--json".toList, .json, .switch⟩ .nothing) := rfl
  have hfound : readFound fieldsFlags 1 [input, "--json".toList]
      = .ok ⟨[(.json, [])], [input], false⟩ :=
    readFound_eq h (tokens?_cons (by decide) hflag rfl) rfl
      ((readCommand_option rfl).trans (readCommand_nil 1 _)) ⟨rfl, rfl⟩
  refine asks_of_readTask (by decide) (tokens?_word h (tokens?_cons (by decide) rfl rfl)) ?_
  rw [readTask, if_neg (by decide), if_pos rfl, hfound]
  rfl

end Prepress.Command
