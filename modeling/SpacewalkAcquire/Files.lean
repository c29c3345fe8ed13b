import SpacewalkAcquire.OrderedMap
import SpacewalkAcquire.Text.Utf8
import SpacewalkAcquire.Text.Split

/-!
# Files

* `FileError` : why a file cannot be used;
* `FileTree` : directories and files by their place below the root, and a working directory;
* `FileTree.locate` : the place that a path names, one component after the other;
* `FileTree.read`, `create`, `append`, `remove` : what can be done with a file.

Every change concerns the one place that `locate` gives, so all other places keep what they hold.
-/

namespace SpacewalkAcquire

/-- Why a file cannot be used. -/
inductive FileError where
  | notFound
  | notDirectory
  | isDirectory
  | nameTooLong
  | denied
  | nulInName
  | notText
  /-- Any other failure, in the system's words. -/
  | other (text : String)
  deriving DecidableEq, Repr

def FileError.message : FileError → String
  | notFound => "No such file or directory (os error 2)"
  | notDirectory => "Not a directory (os error 20)"
  | isDirectory => "Is a directory (os error 21)"
  | nameTooLong => "File name too long (os error 36)"
  | denied => "Permission denied (os error 13)"
  | nulInName => "file name contained an unexpected NUL byte"
  | notText => "stream did not contain valid UTF-8"
  | other text => text

/-- The place of a file or directory: the names that lead to it from the root. -/
abbrev Place := List String

inductive FileNode where
  | directory
  | file (content : Bytes)
  deriving DecidableEq, Repr

/-- Directories and files, each reached by one place only. -/
structure FileTree where
  nodes : OrderedMap Place FileNode
  /-- The place from which relative paths start. -/
  workingDirectory : Place
  /-- The directories in which nothing can be made or removed. Files in them can still be written to. -/
  sealed : List Place

namespace FileTree

def empty : FileTree := ⟨.empty, [], []⟩

/-- The tree with a directory at `place`, and directories at all places above it. -/
def withDirectory (t : FileTree) (place : Place) : FileTree :=
  { t with
    nodes := (List.range place.length).foldl (fun nodes n => nodes.insert (place.take (n + 1)) .directory) t.nodes }

/-- The tree with a file at `place`, and directories at all places above it. -/
def withFile (t : FileTree) (place : Place) (content : Bytes) : FileTree :=
  let t := t.withDirectory place.dropLast
  { t with nodes := t.nodes.insert place (.file content) }

/-- What stands at `place`; the root is always a directory. -/
def node? (t : FileTree) (place : Place) : Option FileNode :=
  if place.isEmpty then some .directory else t.nodes.get? place

/-- The directory above a place is one of the `sealed` ones. -/
def isSealed (t : FileTree) (place : Place) : Bool := t.sealed.contains place.dropLast

def longestName : Nat := 255

def longestPath : Nat := 4095

/-- A step of a path: a name, the place itself, or the place above. -/
inductive Step where
  | name (s : String)
  | here
  | above
  deriving DecidableEq, Repr

def steps (path : List Char) : List Step :=
  ((Text.splitOn '/' path).filter (· ≠ [])).map fun name =>
    if name = ['.'] then .here else if name = ['.', '.'] then .above else .name (String.ofList name)

/-- The directory to which steps lead from `place`. -/
def walk (t : FileTree) (place : Place) : List Step → Except FileError Place
  | [] => .ok place
  | step :: rest =>
    match t.node? place with
    | none => .error .notFound
    | some (.file _) => .error .notDirectory
    | some .directory =>
      match step with
      | .here => walk t place rest
      | .above => walk t place.dropLast rest
      | .name s =>
        if s.utf8ByteSize > longestName then .error .nameTooLong else walk t (place ++ [s]) rest

/-- What a path is known to name before looking at the place: whether it ends in a slash or a dot. -/
structure Target where
  place : Place
  directoryOnly : Bool

/-- The place that `path` names. All places but the last must be directories. -/
def locate (t : FileTree) (path : String) : Except FileError Target := do
  let cs := path.toList
  if cs.contains '\x00' then throw .nulInName
  if cs.isEmpty then throw .notFound
  if path.utf8ByteSize > longestPath then throw .nameTooLong
  let start := if cs.head? = some '/' then [] else t.workingDirectory
  let all := steps cs
  let place ← t.walk start all
  let named := match all.getLast? with
    | some (.name _) => cs.getLast? ≠ some '/'
    | _ => false
  return ⟨place, !named⟩

def read (t : FileTree) (path : String) : Except FileError Bytes := do
  let target ← t.locate path
  match t.node? target.place with
  | none => .error .notFound
  | some .directory => .error .isDirectory
  | some (.file content) => if target.directoryOnly then .error .notDirectory else .ok content

/-- The tree after the file was created or emptied. -/
def create (t : FileTree) (path : String) : Except FileError FileTree := do
  let target ← t.locate path
  if target.directoryOnly || t.node? target.place = some .directory then throw .isDirectory
  else if t.node? target.place = none && t.isSealed target.place then throw .denied
  else return { t with nodes := t.nodes.insert target.place (.file []) }

def append (t : FileTree) (path : String) (chunk : Bytes) : Except FileError FileTree := do
  let target ← t.locate path
  match t.node? target.place with
  | none => throw .notFound
  | some .directory => throw .isDirectory
  | some (.file content) => return { t with nodes := t.nodes.insert target.place (.file (content ++ chunk)) }

def remove (t : FileTree) (path : String) : Except FileError FileTree := do
  let target ← t.locate path
  match t.node? target.place with
  | none => throw .notFound
  | some .directory => throw .isDirectory
  | some (.file _) =>
    if target.directoryOnly then throw .notDirectory
    else if t.isSealed target.place then throw .denied
    else return { t with nodes := t.nodes.erase target.place }

end FileTree

end SpacewalkAcquire
