/-
# A store of files

Files have names and contents.  A file that is open keeps its contents when its name is given
to another one, so names lead to numbers and numbers to contents.  A folder is there when it
has been made or when a file lies in it.  A path is followed name by name, and only a folder
leads on.
-/
import Prepress.Files.Path

namespace Prepress

open Text

/-! ## Faults -/

/-- What can go wrong with a file. -/
inductive FileFault where
  | missing
  | isFolder
  | isFile
  | notFolder
  | notText
  | tooLong
  | nullInName
deriving DecidableEq

/-- The wording of a fault. -/
def FileFault.message : FileFault → Text
  | .missing => "There is no such file".toList
  | .isFolder => "A folder is in the place of the file".toList
  | .isFile => "A file is in the place of the folder".toList
  | .notFolder => "A file is in the place of a folder above".toList
  | .notText => "The file holds no text".toList
  | .tooLong => "The name is too long".toList
  | .nullInName => "embedded null byte".toList

/-! ## Contents -/

/-- The bytes of a text in the encoding of variable length. -/
def encodeText (t : Text) : ByteArray := (String.ofList t).toUTF8

/-- The text that bytes encode. -/
def decodeText? (bytes : ByteArray) : Option Text := (String.fromUTF8? bytes).map String.toList

/-- The locations of files with their numbers, contents by number, and the locations of the
folders that have been made. -/
structure Store where
  names : List (Path × Nat)
  contents : List ByteArray
  folders : List Path

/-- What is at a location. -/
inductive Place where
  | nothing
  | file (number : Nat)
  | folder
deriving DecidableEq

namespace Store

/-- The store without files. -/
def empty : Store := ⟨[], [], []⟩

/-- The number of the file at a location. -/
def find? (s : Store) (p : Path) : Option Nat := (s.names.find? (·.1 == p)).map (·.2)

/-- The contents of the file with a number. -/
def content (s : Store) (file : Nat) : ByteArray := s.contents.getD file ByteArray.empty

/-- The contents of the file at a location. -/
def read? (s : Store) (p : Path) : Option ByteArray := (s.find? p).map s.content

/-- Whether there is a folder at a location.  The current folder and those above are there. -/
def isFolder (s : Store) (p : Path) : Bool :=
  p.parts.all (· == Path.back) || s.folders.contains p
    || s.names.any fun entry => entry.1.isBelow p

/-- What is at a location. -/
def place (s : Store) (p : Path) : Place :=
  match s.find? p with
  | some file => .file file
  | none => if s.isFolder p then .folder else .nothing

/-! ## Following a path -/

/-- What names lead to from a location.  Behind nothing there is nothing. -/
def followFrom (s : Store) : (here : Path) → (names : List Text) → Except FileFault Place
  | here, [] => .ok (s.place here)
  | here, name :: names =>
    match s.place here with
    | .nothing => .ok .nothing
    | .file _ => .error .notFolder
    | .folder =>
      if longestName < byteLength name then .error .tooLong
      else s.followFrom (here.enter name) names

/-- What a path leads to. -/
def follow (s : Store) (p : Path) : Except FileFault Place :=
  if hasNull p.text then .error .nullInName
  else if longestPath < byteLength p.text then .error .tooLong
  else s.followFrom ⟨p.root, []⟩ p.parts

/-- Whether a path leads to something.  No path is without an answer but one that is too
long. -/
def reaches (s : Store) (p : Path) : Except FileFault Bool :=
  match s.follow p with
  | .error .tooLong => .error .tooLong
  | .error _ => .ok false
  | .ok place => .ok (place != .nothing)

/-! ## Changes -/

/-- The store with a new file. -/
def create (s : Store) (p : Path) (bytes : ByteArray) : Store :=
  { s with names := s.names ++ [(p, s.contents.length)], contents := s.contents ++ [bytes] }

/-- The store with other contents of the file with a number. -/
def setContent (s : Store) (file : Nat) (bytes : ByteArray) : Store :=
  { s with contents := s.contents.set file bytes }

/-- The store with bytes added to the file with a number. -/
def append (s : Store) (file : Nat) (bytes : ByteArray) : Store :=
  s.setContent file (s.content file ++ bytes)

/-- The store without the file at a location. -/
def remove (s : Store) (p : Path) : Store := { s with names := s.names.filter (·.1 != p) }

/-- The store with a file at another location, where no other file stays. -/
def rename (s : Store) (source target : Path) : Store :=
  match s.find? source with
  | none => s
  | some file => { s with names := ((s.remove target).remove source).names ++ [(target, file)] }

/-! ## Folders -/

/-- The store with the folders that names lead through from a location, and what kept it from
making one of them.  A file that names lead on from is the fault `blocked`. -/
def makeFrom (s : Store) (blocked : FileFault) :
    (here : Path) → (names : List Text) → Store × Option FileFault
  | here, [] =>
    match s.place here with
    | .file _ => (s, some .isFile)
    | _ => (s, none)
  | here, name :: names =>
    if hasNull name then (s, some .nullInName)
    else
      match s.place here with
      | .file _ => (s, some blocked)
      | _ =>
        if longestName < byteLength name then (s, some .tooLong)
        else
          let next := here.enter name
          match s.place next with
          | .nothing => makeFrom { s with folders := s.folders ++ [next] } blocked next names
          | _ => s.makeFrom blocked next names

/-- The store with a folder and the folders on the way to it, as far as nothing keeps it from
making them. -/
def makeFolder (s : Store) (p : Path) : Store × Option FileFault :=
  if longestPath < byteLength p.text then (s, some .tooLong)
  else s.makeFrom .notFolder ⟨p.root, []⟩ p.parts

/-- The store with a folder and the folders on the way to it, as far as nothing keeps it from
making them, when the path can be followed as far as there is something.  A file that is found
later, behind a folder that had to be made, is in the place of a folder itself. -/
def needFolder (s : Store) (p : Path) : Store × Option FileFault :=
  match s.follow p with
  | .error fault => (s, some fault)
  | .ok _ => s.makeFrom .isFile ⟨p.root, []⟩ p.parts

/-! ## Files -/

/-- The store with the file at a location ready for adding to it, and the number of the
file. -/
def openForAppending (s : Store) (p : Path) : Except FileFault (Store × Nat) :=
  if hasNull p.text then .error .nullInName
  else if p.parts.any fun name => longestName < byteLength name then .error .tooLong
  else
    match s.place p with
    | .folder => .error .isFolder
    | .file file => .ok (s, file)
    | .nothing => .ok (s.create p ByteArray.empty, s.contents.length)

/-- The store with the given contents of the file that a path leads to. -/
def write (s : Store) (p : Path) (bytes : ByteArray) : Except FileFault Store :=
  match s.follow p with
  | .error fault => .error fault
  | .ok .folder => .error .isFolder
  | .ok (.file file) => .ok (s.setContent file bytes)
  | .ok .nothing => .ok (s.create p.resolved bytes)

/-- The text of the file that a path leads to. -/
def readText (s : Store) (p : Path) : Except FileFault Text :=
  match s.follow p with
  | .error fault => .error fault
  | .ok .nothing => .error .missing
  | .ok .folder => .error .isFolder
  | .ok (.file file) =>
    match decodeText? (s.content file) with
    | none => .error .notText
    | some t => .ok (normalizeNewlines t)

end Store

end Prepress
