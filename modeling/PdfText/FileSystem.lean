import PdfText.Surroundings
import PdfText.Unicode.Words
import Std.Data.ExtTreeMap

/-!
# File systems

A file system is a value: it tells what is at each place, a file with its content or a directory.
Places are given by the names that lead to them from the root. A path is walked name by name, and
every name but the last has to be that of a directory.

Two file systems with the same entries are equal, in whatever order the entries came about.

## Main definitions

* `FileSystem` — files and directories at their places
* `FileSystem.walk` — the place that a path leads to
* `FileSystem.read`, `FileSystem.write`, `FileSystem.isPresent` — what a run does with files
* `FileSystem.surroundings` — the surroundings that a file system makes
* `FileSystem.listing` — all entries in the order of their paths
-/

namespace PdfText

/-- The names that lead from the root to an entry. -/
abbrev Place := List String

/-- What is at a place. -/
inductive FileSystem.Entry where
  /-- A file with its content. -/
  | file (content : Bytes)
  /-- A directory. -/
  | directory
  deriving DecidableEq, Repr

/-- Files and directories at their places. The root is a directory and has no entry. -/
structure FileSystem where
  /-- What is at each place below the root. -/
  entries : Std.ExtTreeMap Place FileSystem.Entry

namespace FileSystem

/-- The file system without files. -/
def empty : FileSystem := ⟨∅⟩

/-- What is at a place. -/
def entryAt? (files : FileSystem) (place : Place) : Option Entry :=
  if place.isEmpty then some .directory else files.entries[place]?

/-! ## Paths -/

/-- How many bytes a path may have. -/
def maxPathLength : Nat := 4095

/-- How many bytes a name may have. -/
def maxNameLength : Nat := 255

/-- The pieces of a path between its slashes. -/
def pieces (path : String) : List String :=
  (Words.pieces (· == '/') path.toList).map String.ofList

/-- Refuses what is no path at all. -/
def checkPath (path : String) : Except IoError Unit :=
  if path.toList.contains '\x00' then .error .nullInPath
  else if path.isEmpty then .error .noSuchFile
  else if maxPathLength < path.utf8ByteSize then .error .nameTooLong
  else .ok ()

/-- The place that a name means, seen from a directory. The root lies in itself. -/
def step (place : Place) (name : String) : Except IoError Place :=
  if name = "" ∨ name = "." then .ok place
  else if name = ".." then .ok place.dropLast
  else if maxNameLength < name.utf8ByteSize then .error .nameTooLong
  else .ok (place ++ [name])

/-- Goes on from a place, name by name. Each place that is left has to be a directory. -/
def walkFrom (files : FileSystem) : Place → List String → Except IoError Place
  | place, [] => .ok place
  | place, name :: rest =>
    match files.entryAt? place with
    | none => .error .noSuchFile
    | some (.file _) => .error .notADirectory
    | some .directory =>
      match step place name with
      | .error error => .error error
      | .ok next => walkFrom files next rest

/-- The place that a path leads to. There may be nothing at it. -/
def walk (files : FileSystem) (path : String) : Except IoError Place := do
  checkPath path
  files.walkFrom [] (pieces path)

/-- Whether a name stands for a directory by itself. -/
def namesDirectory (name : String) : Bool := name == "" || name == "." || name == ".."

/-- The place of the file that a path names for writing. A path that ends in a slash or in dots
names none. -/
def target (files : FileSystem) (path : String) : Except IoError Place := do
  checkPath path
  let names := pieces path
  let ending := names.getLastD ""
  let names := names.filter (· ≠ "")
  let parent ← files.walkFrom [] (names.dropLast ++ ["."])
  if namesDirectory ending then throw .isADirectory
  step parent ending

/-! ## Reading and writing -/

/-- The content of the file at a path. -/
def read (files : FileSystem) (path : String) : Except IoError Bytes := do
  match files.entryAt? (← files.walk path) with
  | none => throw .noSuchFile
  | some .directory => throw .isADirectory
  | some (.file content) => return content

/-- Puts a file in place of one at a path, or creates one. -/
def write (files : FileSystem) (path : String) (content : Bytes) : Except IoError FileSystem := do
  let place ← files.target path
  match files.entryAt? place with
  | some .directory => throw .isADirectory
  | _ => return ⟨files.entries.insert place (.file content)⟩

/-- Whether anything is at a path. -/
def isPresent (files : FileSystem) (path : String) : Bool :=
  match files.walk path with
  | .error _ => false
  | .ok place => (files.entryAt? place).isSome

/-- The surroundings that a file system makes. Reports are lost. -/
def surroundings : Surroundings (StateM FileSystem) where
  read path := ExceptT.mk fun files => (files.read path, files)
  write path content := ExceptT.mk fun files =>
    match files.write path content with
    | .ok written => (.ok (), written)
    | .error error => (.error error, files)
  isPresent path := fun files => (files.isPresent path, files)
  report _ := pure ()

/-! ## Setting up and listing -/

/-- The place that a path means where nothing is in the way. -/
def placeOf (path : String) : Place := (pieces path).filter fun name => name ≠ "" ∧ name ≠ "."

/-- Adds the directories that lead to a place, and one at the place itself. -/
def addDirectory (files : FileSystem) (place : Place) : FileSystem :=
  (List.range place.length).foldl (fun files depth =>
    ⟨files.entries.insertIfNew (place.take (depth + 1)) .directory⟩) files

/-- Puts a file at a place, with the directories that lead to it. -/
def addFile (files : FileSystem) (place : Place) (content : Bytes) : FileSystem :=
  ⟨(files.addDirectory place.dropLast).entries.insert place (.file content)⟩

/-- Takes away what is at a place and below it. -/
def remove (files : FileSystem) (place : Place) : FileSystem :=
  ⟨files.entries.filter fun other _ => !place.isPrefixOf other⟩

/-- The path to a place. -/
def pathOf (place : Place) : String := "/".intercalate place

/-- All entries in the order of their paths. -/
def listing (files : FileSystem) : List (String × Entry) :=
  (files.entries.toList.map fun (place, entry) => (pathOf place, entry)).mergeSort
    fun first second => first.1 ≤ second.1

end FileSystem

/-! ## Keeping reports -/

/-- Surroundings that keep all reports, last one first, and do everything else as before. -/
def Surroundings.recording {m : Type → Type} [Monad m] (around : Surroundings m) :
    Surroundings (StateT (List Event) m) where
  read path := ExceptT.mk (StateT.lift (around.read path).run)
  write path content := ExceptT.mk (StateT.lift (around.write path content).run)
  isPresent path := StateT.lift (around.isPresent path)
  report event := fun events => return ((), event :: events)

end PdfText
