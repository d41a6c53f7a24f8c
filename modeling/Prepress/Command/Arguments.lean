/-
# Arguments

The command line has options of its own, then the name of a command, and then the options and
the words of that command.  An option may be cut short as long as one option is meant, and its
value may be the next word or stand behind an equals sign.  Behind two hyphens there are words
only.
-/
import Prepress.Text.Digit
import Prepress.Text.Lines
import Prepress.Text.Search

namespace Prepress.Command

open Text

/-! ## Options -/

/-- What an option is about. -/
inductive Key where
  | help
  | logLevel
  | noRich
  | logFile
  | output
  | dateFormat
  | json
deriving DecidableEq

/-- Whether an option asks for help, is set by being there, or has a value. -/
inductive Arity where
  | help
  | switch
  | value
deriving DecidableEq

/-- An option: what it is about, one of its names, and its arity. -/
structure Flag where
  name : Text
  key : Key
  arity : Arity

/-- Whether the name of an option is a single letter behind a hyphen. -/
def Flag.isShort (f : Flag) : Bool := f.name.length == 2

/-- The two names of the option that asks for help. -/
def helpFlags : List Flag := [⟨"-h".toList, .help, .help⟩, ⟨"--help".toList, .help, .help⟩]

/-- The options before the command. -/
def generalFlags : List Flag :=
  helpFlags
    ++ [⟨"--log-level".toList, .logLevel, .value⟩, ⟨"--no-rich".toList, .noRich, .switch⟩,
      ⟨"--log-file".toList, .logFile, .value⟩]

/-- The options of processing a file. -/
def processFlags : List Flag :=
  helpFlags
    ++ [⟨"-o".toList, .output, .value⟩, ⟨"--output".toList, .output, .value⟩,
      ⟨"--date-format".toList, .dateFormat, .value⟩]

/-- The options of listing fields. -/
def fieldsFlags : List Flag := helpFlags ++ [⟨"--json".toList, .json, .switch⟩]

/-! ## Tokens -/

/-- What an option carries with it: nothing, what stands behind an equals sign, or what stands
directly behind its letter. -/
inductive Load where
  | nothing
  | equated (value : Text)
  | joined (value : Text)

/-- What an argument is taken for. -/
inductive Token where
  | word
  | separator
  | option (flag : Flag) (load : Load)
  | unknown

/-- The text without the end of a line at its end. -/
def dropLineEnd (t : Text) : Text := if t.getLast? = some '\n' then t.dropLast else t

/-- Whether a text has the form of a negative number, perhaps with the end of a line. -/
def isNegativeNumber (t : Text) : Bool :=
  match dropLineEnd t with
  | '-' :: t =>
    match cut? ['.'] t with
    | none => !t.isEmpty && t.all isDigit
    | some (whole, fraction) => whole.all isDigit && !fraction.isEmpty && fraction.all isDigit
  | _ => false

/-- The options that an argument may be short for, with what it loads them with. -/
def candidates (flags : List Flag) (t : Text) : List (Flag × Load) :=
  if startsWith ['-', '-'] t then
    let (lead, load) :=
      match cut? ['='] t with
      | some (lead, value) => (lead, Load.equated value)
      | none => (t, Load.nothing)
    (flags.filter fun f => startsWith lead f.name).map fun f => (f, load)
  else
    flags.filterMap fun f =>
      if f.name = t.take 2 then some (f, .joined (t.drop 2))
      else if startsWith t f.name then some (f, .nothing)
      else none

/-- The option that an argument names in full, with the value behind an equals sign. -/
def fullName? (flags : List Flag) (t : Text) : Option (Flag × Load) :=
  match flags.find? (·.name == t) with
  | some f => some (f, .nothing)
  | none =>
    match cut? ['='] t with
    | some (name, value) => (flags.find? (·.name == name)).map fun f => (f, .equated value)
    | none => none

/-- What an argument is taken for; nothing if it may be short for several options. -/
def token? (flags : List Flag) (t : Text) : Option Token :=
  if t.head? ≠ some '-' ∨ t.length = 1 then some .word
  else
    match fullName? flags t with
    | some (f, load) => some (.option f load)
    | none =>
      match candidates flags t with
      | [] => some (if isNegativeNumber t || ' ' ∈ t then .word else .unknown)
      | [(f, load)] => some (.option f load)
      | _ => none

/-- What arguments are taken for. -/
def tokens? (flags : List Flag) : List Text → Option (List (Text × Token))
  | [] => some []
  | t :: ts =>
    if t = ['-', '-'] then some ((t, .separator) :: ts.map fun word => (word, .word))
    else do
      let token ← token? flags t
      let rest ← tokens? flags ts
      pure ((t, token) :: rest)

/-! ## Settings -/

/-- Why arguments are not carried out: help is asked for, or they make no sense. -/
inductive Stop where
  | helped
  | refused
deriving DecidableEq

/-- The settings that have been read, the words, and whether anything is left over. -/
structure Found where
  settings : List (Key × Text)
  words : List Text
  leftover : Bool

/-- Nothing found. -/
def Found.nothing : Found := ⟨[], [], false⟩

/-- The last value that a key has been set to. -/
def Found.value? (f : Found) (key : Key) : Option Text :=
  (f.settings.reverse.find? (·.1 == key)).map (·.2)

/-- The levels that may be asked for. -/
def levelChoices : List Text :=
  ["DEBUG", "INFO", "WARNING", "ERROR", "CRITICAL"].map String.toList

/-- Whether a key may be set to a value. -/
def admitted (key : Key) (value : Text) : Bool := key != .logLevel || levelChoices.contains value

/-- With a setting added, if it is admitted. -/
def Found.set (f : Found) (key : Key) (value : Text) : Except Stop Found :=
  if admitted key value then .ok { f with settings := f.settings ++ [(key, value)] }
  else .error .refused

/-- Whether what stands behind a short switch makes sense: letters of short switches, and at
their end perhaps that of a short option with its value behind it or in the next word. -/
def isCluster (flags : List Flag) (wordFollows : Bool) : Text → Bool
  | [] => false
  | c :: t =>
    match flags.find? (·.name == ['-', c]) with
    | none => false
    | some f =>
      if f.arity = .value then !t.isEmpty || wordFollows
      else t.isEmpty || isCluster flags wordFollows t

/-- Whether a word comes first. -/
def wordFollows : List (Text × Token) → Bool
  | (_, .word) :: _ => true
  | _ => false

/-- The arguments without two hyphens at their beginning. -/
def dropSeparator : List (Text × Token) → List (Text × Token)
  | (_, .separator) :: ts => ts
  | ts => ts

theorem dropSeparator_length_le (ts : List (Text × Token)) :
    (dropSeparator ts).length ≤ ts.length := by
  unfold dropSeparator
  split <;> simp

/-- Carries out an option: what is then found, and how many further arguments it takes. -/
def Found.option (flags : List Flag) (flag : Flag) (load : Load)
    (rest : List (Text × Token)) (f : Found) : Except Stop (Found × Nat) :=
  match flag.arity, load with
  | .value, .equated value | .value, .joined value => (f.set flag.key value).map (·, 0)
  | .value, .nothing =>
    match rest with
    | (word, .word) :: _ => (f.set flag.key word).map (·, 1)
    | _ => .error .refused
  | .switch, .nothing => (f.set flag.key []).map (·, 0)
  | .help, .nothing => .error .helped
  | .help, .equated letters | .help, .joined letters =>
    if flag.isShort && isCluster flags (wordFollows rest) letters then .error .helped
    else .error .refused
  | _, _ => .error .refused

/-- Reads the arguments of a command that takes so many words. -/
def readCommand (flags : List Flag) (wanted : Nat) : List (Text × Token) → Found →
    Except Stop Found
  | [], f => .ok f
  | (_, .unknown) :: ts, f => readCommand flags wanted ts { f with leftover := true }
  | (_, .separator) :: ts, f =>
    match ts with
    | (word, _) :: rest =>
      if f.words.length < wanted then
        readCommand flags wanted rest { f with words := f.words ++ [word] }
      else .ok { f with leftover := true }
    | [] => .ok { f with leftover := true }
  | (word, .word) :: ts, f =>
    if f.words.length < wanted then
      readCommand flags wanted (dropSeparator ts) { f with words := f.words ++ [word] }
    else readCommand flags wanted ts { f with leftover := true }
  | (_, .option flag load) :: ts, f =>
    match f.option flags flag load ts with
    | .error stop => .error stop
    | .ok (f, taken) => readCommand flags wanted (ts.drop taken) f
termination_by ts => ts.length
decreasing_by
  · simp only [List.length_cons]
    omega
  · simp only [List.length_cons]
    omega
  · have := dropSeparator_length_le ts
    simp only [List.length_cons]
    omega
  · simp only [List.length_cons]
    omega
  · simp only [List.length_cons, List.length_drop]
    omega

/-- Reads the arguments before the command: what is found, the command's name and the
arguments behind it. -/
def readGeneral (flags : List Flag) : List (Text × Token) → Found →
    Except Stop (Found × Option (Text × List Text))
  | [], f => .ok (f, none)
  | (_, .unknown) :: ts, f => readGeneral flags ts { f with leftover := true }
  | (_, .separator) :: _, _ => .error .refused
  | (word, .word) :: ts, f => .ok (f, some (word, ts.map (·.1)))
  | (_, .option flag load) :: ts, f =>
    match f.option flags flag load ts with
    | .error stop => .error stop
    | .ok (f, taken) => readGeneral flags (ts.drop taken) f
termination_by ts => ts.length
decreasing_by
  all_goals
    simp only [List.length_cons, List.length_drop]
    omega

/-! ## Commands -/

/-- What is to be done. -/
inductive Task where
  | process (input : Text) (output dateFormat : Option Text)
  | fields (input : Text) (json : Bool)
  | version
deriving DecidableEq

/-- The arguments of the program. -/
structure Arguments where
  level : Text
  rich : Bool
  logFile : Option Text
  task : Option Task
deriving DecidableEq

/-- A value that is there and not empty. -/
def nonempty : Option Text → Option Text
  | some (c :: t) => some (c :: t)
  | _ => none

/-- What a command found its arguments to be. -/
def readFound (flags : List Flag) (wanted : Nat) (arguments : List Text) : Except Stop Found :=
  match tokens? flags arguments with
  | none => .error .refused
  | some tokens =>
    match readCommand flags wanted tokens .nothing with
    | .error stop => .error stop
    | .ok f => if f.leftover || f.words.length < wanted then .error .refused else .ok f

/-- The task of a command with its arguments. -/
def readTask (name : Text) (arguments : List Text) : Except Stop Task :=
  if name = "process".toList then
    (readFound processFlags 1 arguments).map fun f =>
      .process (f.words.headD []) (nonempty (f.value? .output)) (nonempty (f.value? .dateFormat))
  else if name = "fields".toList then
    (readFound fieldsFlags 1 arguments).map fun f =>
      .fields (f.words.headD []) (f.value? .json).isSome
  else if name = "version".toList then
    (readFound helpFlags 0 arguments).map fun _ => .version
  else .error .refused

/-- The arguments of the program, with what is found before the command. -/
def Arguments.ofFound (f : Found) (task : Option Task) : Except Stop Arguments :=
  if f.leftover then .error .refused
  else
    .ok
      { level := (f.value? .logLevel).getD "WARNING".toList
        rich := (f.value? .noRich).isNone
        logFile := nonempty (f.value? .logFile)
        task }

/-- The arguments that a command line gives. -/
def Arguments.read (line : List Text) : Except Stop Arguments :=
  match tokens? generalFlags line with
  | none => .error .refused
  | some tokens =>
    match readGeneral generalFlags tokens .nothing with
    | .error stop => .error stop
    | .ok (f, none) => Arguments.ofFound f none
    | .ok (f, some (name, arguments)) =>
      match readTask name arguments with
      | .error stop => .error stop
      | .ok task => Arguments.ofFound f (some task)

end Prepress.Command
