import PageTitle.Text.Split

/-!
# Files and directories

A tree of files under one root. `FileTree.install` puts a file in place as a whole, or leaves all files
as they were.
-/

namespace PageTitle

/-- A path as it was written, its parts from the root, and whether it can only stand for a
directory. -/
structure FilePath where
  text : Text
  parts : List Text
  asDirectory : Bool
  deriving DecidableEq, Repr

namespace FilePath

def parentPart : Text := ['.', '.']

/-- The parts of a written path; a single dot stands for nothing. -/
def split (t : Text) : List Text := (Text.split '/' t).filter fun p => p ≠ [] && p ≠ ['.']

/-- Whether the last name of a written path is a single dot. -/
def endsInDot (t : Text) : Bool := ((Text.split '/' t).filter (· ≠ [])).getLast? = some ['.']

/-- A written path; one without a leading slash starts at a working directory. -/
def ofText (workingDirectory : List Text) (t : Text) : FilePath where
  text := t
  parts := (if t.head? = some '/' then [] else workingDirectory) ++ split t
  asDirectory := t.getLast? = some '/' || endsInDot t

/-- The path of an entry of the directory at a path. -/
def join (p : FilePath) (name : Text) : FilePath :=
  let slash := if p.text.getLast? = some '/' || p.text.isEmpty then [] else ['/']
  ⟨p.text ++ slash ++ name, p.parts ++ split name, name.getLast? = some '/'⟩

end FilePath

/-- Why an operation on files fails. -/
inductive FileError where
  | missing | notDirectory | isDirectory | taken | busy
  deriving DecidableEq, Repr

namespace FileError

def message : FileError → Text
  | missing => "No such file or directory (os error 2)".toList
  | notDirectory => "Not a directory (os error 20)".toList
  | isDirectory => "Is a directory (os error 21)".toList
  | taken => "File exists (os error 17)".toList
  | busy => "Device or resource busy (os error 16)".toList

end FileError

/-- What stands at a place of the tree. -/
inductive FileEntry where
  | file (bytes : ByteArray)
  | directory

instance : DecidableEq FileEntry
  | .file a, .file b =>
    @decidable_of_iff _ (a = b) ⟨congrArg FileEntry.file, FileEntry.file.inj⟩
      (ByteArray.instDecidableEq a b)
  | .directory, .directory => isTrue rfl
  | .file _, .directory | .directory, .file _ => isFalse nofun

/-- The entries of a tree by their place, which is the list of names from the root. -/
structure FileTree where
  entries : List (List Text × FileEntry) := []

namespace FileTree

/-- What stands at a place; at the root there is always a directory. -/
def entry? (t : FileTree) (place : List Text) : Option FileEntry :=
  if place = [] then some .directory else t.entries.lookup place

/-- The tree with another entry at a place. -/
def put (t : FileTree) (place : List Text) (e : FileEntry) : FileTree :=
  ⟨(place, e) :: t.entries.filter (·.1 ≠ place)⟩

/-- The tree without the entry at a place. -/
def drop (t : FileTree) (place : List Text) : FileTree := ⟨t.entries.filter (·.1 ≠ place)⟩

/-- The directory that the parts of a path lead to, from the one at a place. -/
def walk (t : FileTree) : (place parts : List Text) → Except FileError (List Text)
  | place, [] => .ok place
  | place, p :: ps =>
    if p = FilePath.parentPart then walk t place.dropLast ps
    else match t.entry? (place ++ [p]) with
      | some .directory => walk t (place ++ [p]) ps
      | some (.file _) => .error .notDirectory
      | none => .error .missing

/-- The place that a path names, or nothing if it ends in no name. -/
def place? (t : FileTree) (p : FilePath) : Except FileError (Option (List Text)) := do
  let place ← t.walk [] p.parts.dropLast
  return match p.parts.getLast? with
    | none => none
    | some name => if name = FilePath.parentPart then none else some (place ++ [name])

/-- The contents of the file at a path. -/
def read (t : FileTree) (p : FilePath) : Except FileError ByteArray := do
  match ← t.place? p with
  | none => .error .isDirectory
  | some place =>
    match t.entry? place with
    | none => .error .missing
    | some .directory => .error .isDirectory
    | some (.file b) => if p.asDirectory then .error .notDirectory else .ok b

/-- Why no file can be put at a path that can only stand for a directory. A slash at its end is found
before what stands there is looked at, and a dot after. -/
def directoryError (t : FileTree) (p : FilePath) (place : List Text) : FileError :=
  if FilePath.endsInDot p.text then
    match t.entry? place with
    | none => .missing
    | some (.file _) => .notDirectory
    | some .directory => .busy
  else .notDirectory

/-- Puts a file at a path, in place of one that may be there. -/
def replace (t : FileTree) (p : FilePath) (b : ByteArray) : Except FileError FileTree := do
  match ← t.place? p with
  | none => .error .busy
  | some place =>
    if p.asDirectory then .error (t.directoryError p place)
    else match t.entry? place with
      | some .directory => .error .isDirectory
      | _ => .ok (t.put place (.file b))

/-- Removes the file at a path. -/
def remove (t : FileTree) (p : FilePath) : Except FileError FileTree := do
  match ← t.place? p with
  | none => .error .isDirectory
  | some place =>
    match t.entry? place with
    | none => .error .missing
    | some .directory => .error .isDirectory
    | some (.file _) => if p.asDirectory then .error .notDirectory else .ok (t.drop place)

/-- Makes the directories that the parts of a path name, from the one at a place, as far as a file is not
in the way; `made` tells whether one was made before. What was made stays in the tree. -/
def makeDirectories (t : FileTree) (made : Bool) :
    (place parts : List Text) → Except FileError Unit × FileTree
  | _, [] => (.ok (), t)
  | place, p :: ps =>
    if p = FilePath.parentPart then makeDirectories t made place.dropLast ps
    else match t.entry? (place ++ [p]) with
      | some .directory => makeDirectories t made (place ++ [p]) ps
      -- the whole path is tried first, and its parts one by one once something on it was missing
      | some (.file _) => (.error (if made || ps.isEmpty then .taken else .notDirectory), t)
      | none => makeDirectories (t.put (place ++ [p]) .directory) true (place ++ [p]) ps

/-- Makes a directory at a path and at all places on the way. -/
def makeDirectory (t : FileTree) (p : FilePath) : Except FileError Unit × FileTree :=
  t.makeDirectories false [] p.parts

/-- Makes a directory for the entry at a path. -/
def makeParent (t : FileTree) (p : FilePath) : Except FileError Unit × FileTree :=
  t.makeDirectories false [] p.parts.dropLast

/-- A name that no entry of the tree has: it is longer than all their names together. -/
def freshName (t : FileTree) : Text :=
  ".tmp".toList ++ List.replicate (t.entries.flatMap (·.1)).flatten.length '0'

/-- Moves the file at a place to a path. -/
def move (t : FileTree) (place : List Text) (p : FilePath) : Except FileError FileTree :=
  match t.entry? place with
  | none => .error .missing
  | some .directory => .error .isDirectory
  | some (.file b) => (t.drop place).replace p b

/-- Puts a file at a path as a whole, with the directories on its way: a draft is written next to where
the file goes and moved there. A draft that cannot be moved is removed; directories that were made
stay. -/
def install (t : FileTree) (p : FilePath) (b : ByteArray) : Except FileError Unit × FileTree :=
  match t.makeParent p with
  | (.error e, t) => (.error e, t)
  | (.ok (), t) =>
    match t.walk [] p.parts.dropLast with
    | .error e => (.error e, t)
    | .ok directory =>
      let draft := directory ++ [t.freshName]
      let written := t.put draft (.file b)
      match written.move draft p with
      | .error e => (.error e, written.drop draft)
      | .ok t => (.ok (), t)

end FileTree
end PageTitle
