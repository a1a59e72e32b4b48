import ChenDiagram.Options
import ChenDiagram.Model.Table
import ChenDiagram.Text.Scanner

/-! Files, as a run of the command sees them: anything that can be read and written under paths.
One such thing is a tree of directories below a root. -/

namespace ChenDiagram.Command
open Text

/-- States `σ` of a store of files. Several paths may lead to one file, reading may fail on a file
that exists, and writing may fail anywhere. -/
class FileSystem (σ : Type) where
  /-- The files as such, whatever they are called. -/
  File : Type
  find? : σ → String → Option File
  content? : σ → File → Option ByteArray
  read : σ → String → Except Fault ByteArray
  write : σ → String → ByteArray → Except Fault Unit × σ
  /-- What is read is the content of the file that the path leads to. -/
  holds_of_read {t : σ} {path : String} {bytes : ByteArray} : read t path = .ok bytes →
    ∃ file, find? t path = some file ∧ content? t file = some bytes

/-- Names from the root downwards; the empty list is the root itself. -/
abbrev Location := List String

/-- The names that make up a path, in order. -/
def pathNames (path : String) : List String := (pieces '/' path.toList).map String.ofList

/-- The location that a plain path names from where it starts. -/
def Location.ofPath (path : String) : Location :=
  (pathNames path).filter fun name => name ≠ "" ∧ name ≠ "."

def Location.path (here : Location) : String := "/".intercalate here

/-- Directories need to be listed only if they are empty: whatever lies below a location makes it
a directory, and so does the working directory. -/
structure FileTree where
  /-- Where paths without a leading slash start. -/
  workingDirectory : Location := []
  directories : List Location := []
  files : Table Location ByteArray := {}
  /-- Locations that refuse to be written, each for a reason. -/
  readOnly : Table Location Fault := {}

/-- What stands at a location. -/
inductive Entry where
  | file (content : ByteArray)
  | directory
  | nothing

namespace FileTree

/-- The tree of these directories and files below a working directory. -/
def ofListing (workingDirectory : Location) (directories : List String)
    (files : List (String × ByteArray)) : FileTree where
  workingDirectory
  directories := directories.map fun path => workingDirectory ++ .ofPath path
  files := .ofEntries (files.map fun f => (workingDirectory ++ .ofPath f.1, f.2))

/-- Whether something is listed at this location or below it. -/
def isOccupied (t : FileTree) (here : Location) : Bool :=
  here.isPrefixOf t.workingDirectory || t.directories.any here.isPrefixOf ||
    t.files.keys.any here.isPrefixOf

def entry (t : FileTree) (here : Location) : Entry :=
  match t.files.get? here with
  | some content => .file content
  | none => if t.isOccupied here then .directory else .nothing

/-- One name further, which is possible from a directory only. The root is above itself. -/
def step (t : FileTree) (here : Location) (name : String) : Except Fault Location :=
  match t.entry here with
  | .file _ => .error .notADirectory
  | .nothing => .error .notFound
  | .directory =>
    if name = "" ∨ name = "." then .ok here
    else if name = ".." then .ok here.dropLast
    else .ok (here ++ [name])

/-- Follows names from the working directory or, behind a leading slash, from the root. -/
def walk (t : FileTree) : List String → Except Fault Location
  | "" :: name :: names => (name :: names).foldlM t.step []
  | names => names.foldlM t.step t.workingDirectory

/-- A path that ends in a slash demands a directory, which cannot be read as a file. -/
def read (t : FileTree) (path : String) : Except Fault ByteArray := do
  match t.entry (← t.walk (pathNames path)) with
  | .file content => .ok content
  | .directory => .error .isADirectory
  | .nothing => .error .notFound

/-- Replaces or creates a file. The directory above it must exist, and the path must not demand a
directory. -/
def write (t : FileTree) (path : String) (content : ByteArray) : Except Fault FileTree := do
  let names := pathNames path
  let bare := (names.reverse.dropWhile (· = "")).reverse
  let here ← t.walk bare
  match t.entry here with
  | .directory => .error .isADirectory
  | _ =>
    if bare.length < names.length then .error .isADirectory
    else match t.readOnly.get? here with
      | some fault => .error fault
      | none => .ok { t with files := t.files.insert here content }

/-- Files below the working directory that `before` lacks or holds with other content, each under
its name from there. -/
def changes (before after : FileTree) : List (Location × ByteArray) :=
  after.files.entries.filterMap fun e =>
    if (before.files.get? e.1).map ByteArray.data = some e.2.data then none
    else (after.workingDirectory.isPrefixOf? e.1).map fun here => (here, e.2)

theorem entry_eq_file_iff {t : FileTree} {here : Location} {content : ByteArray} :
    t.entry here = .file content ↔ t.files.get? here = some content := by
  unfold entry
  split
  · next hfile => rw [hfile, Entry.file.injEq, Option.some.injEq]
  · next hnone => rw [hnone]; split <;> simp

theorem exists_walk_of_read {t : FileTree} {path : String} {bytes : ByteArray}
    (h : t.read path = .ok bytes) :
    ∃ here, t.walk (pathNames path) = .ok here ∧ t.files.get? here = some bytes := by
  unfold read at h
  cases hwalk : t.walk (pathNames path) with
  | error fault => rw [hwalk] at h; cases h
  | ok here =>
    rw [hwalk] at h
    simp only [bind, Except.bind] at h
    split at h
    · next hentry =>
      cases h
      exact ⟨here, rfl, entry_eq_file_iff.mp hentry⟩
    · cases h
    · cases h

end FileTree

/-- Files are told apart by their location. -/
instance : FileSystem FileTree where
  File := Location
  find? t path := (t.walk (pathNames path)).toOption
  content? t here := t.files.get? here
  read := FileTree.read
  write t path content :=
    match t.write path content with
    | .ok t' => (.ok (), t')
    | .error fault => (.error fault, t)
  holds_of_read h := by
    obtain ⟨here, hwalk, hfile⟩ := FileTree.exists_walk_of_read h
    exact ⟨here, by rw [hwalk]; rfl, hfile⟩

end ChenDiagram.Command
