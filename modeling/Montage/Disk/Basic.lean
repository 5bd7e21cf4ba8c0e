import Montage.Disk.Path
import Montage.Fault

/-!
# Disks

A disk is a table of places, each a file or a directory.  A place is the list of names that leads to
it from the root, so it has one spelling, whereas many paths lead to it.

* `Disk.resolve` — the place that a path leads to: **every part but the last must be a directory**,
  and `..` goes back one step.
* `Disk.read`, `Disk.write`, `Disk.append`, `Disk.unlink`, `Disk.removeTree`, `Disk.list`,
  `Disk.makeDirectory`, `Disk.makeDirectories` — the operations; errors name the path as it was
  given.

The root itself is a directory that is not in the table.
-/

namespace Montage

/-- The names that lead to a place from the root. -/
abbrev Place := List String

/-- What is at a place. -/
inductive DiskNode where
  | file (content : ByteArray)
  | directory
  deriving DecidableEq

/-- What lies on a disk: the directories and files below its root, which is always there.  Some
files refuse to be deleted, so that clearing up can fail. -/
structure Disk where
  nodes : List (Place × DiskNode) := []
  /-- Names of files that cannot be deleted one by one. -/
  undeletable : List String := []

/-- Why an operation on a path fails. -/
inductive DiskProblem where
  | notFound
  | alreadyExists
  | notDirectory
  | isDirectory
  | notEmpty
  | nameTooLong
  | denied
  deriving DecidableEq, Repr

/-- The error of the operating system for a problem with a path. -/
def DiskProblem.about (p : DiskProblem) (path : Path) : OsError :=
  match p with
  | notFound => .notFound path.text
  | alreadyExists => .alreadyExists path.text
  | notDirectory => .notDirectory path.text
  | isDirectory => .isDirectory path.text
  | notEmpty => .notEmpty path.text
  | nameTooLong => .nameTooLong path.text
  | denied => .permissionDenied path.text

namespace Disk

/-! ## Places -/

/-- What lies in a place, if anything. -/
def node? (d : Disk) (place : Place) : Option DiskNode :=
  if place.isEmpty then some .directory else d.nodes.lookup place

/-- Puts something at a place, in the place of what was there. -/
def put (d : Disk) (place : Place) (node : DiskNode) : Disk :=
  { d with nodes := (place, node) :: d.nodes.filter fun n => n.1 ≠ place }

/-- Clears every place that satisfies `p`. -/
def clear (d : Disk) (p : Place → Bool) : Disk :=
  { d with nodes := d.nodes.filter fun n => !p n.1 }

/-- Whether a place lies below another one. -/
def isBelow (place other : Place) : Bool :=
  place.length < other.length && other.take place.length == place

/-- The names of what lies directly in a place. -/
def names (d : Disk) (place : Place) : List String :=
  (d.nodes.filterMap fun n =>
    if isBelow place n.1 && n.1.length = place.length + 1 then n.1.getLast? else none).mergeSort
      fun a b => !Text.precedes b a

/-! ## Paths -/

/-- A single name may have so many bytes. -/
def nameLimit : Nat := 255

/-- A whole path has to have fewer bytes than this. -/
def pathLimit : Nat := 4096

/-- Where the parts of a path lead from a place. -/
def walk (d : Disk) (place : Place) : List String → Except DiskProblem Place
  | [] => .ok place
  | part :: rest =>
    match d.node? place with
    | none => .error .notFound
    | some (.file _) => .error .notDirectory
    | some .directory =>
      if part = ".." then walk d place.dropLast rest
      else if nameLimit < Text.byteCount part then .error .nameTooLong
      else walk d (place ++ [part]) rest

/-- The place that a path leads to; there may be nothing there yet. -/
def resolve (d : Disk) (here : Place) (path : Path) : Except DiskProblem Place :=
  if pathLimit ≤ Text.byteCount path.text then .error .nameTooLong
  else d.walk (if path.isAbsolute then [] else here) path.parts

/-- What a path leads to. -/
def find (d : Disk) (here : Place) (path : Path) : Except DiskProblem (Place × DiskNode) := do
  let place ← d.resolve here path
  match d.node? place with
  | some node => return (place, node)
  | none => .error .notFound

/-- Whether a path leads to a directory.  A path that leads nowhere does not; one that is too long
cannot be asked about. -/
def isDirectory (d : Disk) (here : Place) (path : Path) : Except DiskProblem Bool :=
  match d.find here path with
  | .ok (_, .directory) => .ok true
  | .ok _ => .ok false
  | .error .nameTooLong => .error .nameTooLong
  | .error _ => .ok false

/-! ## Files -/

/-- The content of the file that a path leads to. -/
def read (d : Disk) (here : Place) (path : Path) : Except DiskProblem ByteArray := do
  match ← d.find here path with
  | (_, .file content) => return content
  | (_, .directory) => .error .isDirectory

/-- The place where a path may be written. -/
def target (d : Disk) (here : Place) (path : Path) : Except DiskProblem Place := do
  let place ← d.resolve here path
  match d.node? place with
  | some .directory => .error .isDirectory
  | some (.file _) => return place
  | none =>
    match d.node? place.dropLast with
    | some .directory => return place
    | some (.file _) => .error .notDirectory
    | none => .error .notFound

/-- Writes a file, in the place of an old one. -/
def write (d : Disk) (here : Place) (path : Path) (content : ByteArray) :
    Except DiskProblem Disk := do
  let place ← d.target here path
  return d.put place (.file content)

/-- Writes at the end of a file; one that is not there yet counts as empty. -/
def append (d : Disk) (here : Place) (path : Path) (content : ByteArray) :
    Except DiskProblem Disk := do
  let place ← d.target here path
  let old := match d.node? place with
    | some (.file old) => old
    | _ => ByteArray.empty
  return d.put place (.file (old ++ content))

/-- Deletes one file.  Directories are not deleted this way. -/
def unlink (d : Disk) (here : Place) (path : Path) : Except DiskProblem Disk := do
  if d.undeletable.contains path.name then .error .denied
  match ← d.find here path with
  | (place, .file _) => return d.clear (· == place)
  | (_, .directory) => .error .isDirectory

/-! ## Directories -/

/-- The names in the directory that a path leads to, sorted. -/
def list (d : Disk) (here : Place) (path : Path) : Except DiskProblem (List String) := do
  match ← d.find here path with
  | (place, .directory) => return d.names place
  | (_, .file _) => .error .notDirectory

/-- Makes a directory below one that is there, in a place where nothing is. -/
def makeDirectory (d : Disk) (here : Place) (path : Path) : Except DiskProblem Disk := do
  let place ← d.resolve here path
  match d.node? place with
  | some _ => .error .alreadyExists
  | none => return d.put place .directory

/-- Removes a directory with everything in it; tells whether the directory itself could be removed
in the end.  Its own path may lead through what was just removed. -/
def removeTree (d : Disk) (here : Place) (path : Path) : Except DiskProblem Unit × Disk :=
  match d.find here path with
  | .error p => (.error p, d)
  | .ok (_, .file _) => (.error .notDirectory, d)
  | .ok (place, .directory) =>
    let emptied := d.clear (isBelow place)
    match emptied.find here path with
    | .error p => (.error p, emptied)
    | .ok (place, _) => (.ok (), emptied.clear (· == place))

/-- The path that a failure is about, with the problem. -/
abbrev Complaint := Path × DiskProblem

/-- Makes a directory; that it is there already is no problem. -/
def ensureDirectory (d : Disk) (here : Place) (path : Path) : Except Complaint Disk :=
  match d.makeDirectory here path with
  | .ok d => .ok d
  | .error p =>
    if (d.isDirectory here path).toOption = some true then .ok d else .error (path, p)

/-- Makes a directory and whatever is missing above it. -/
def makeDirectoriesWithin (d : Disk) (here : Place) (path : Path) :
    (depth : Nat) → Except Complaint Disk
  | 0 => d.ensureDirectory here path
  | depth + 1 =>
    match d.makeDirectory here path with
    | .error .notFound =>
      if path.parent = path then .error (path, .notFound)
      else do
        let d ← d.makeDirectoriesWithin here path.parent depth
        d.ensureDirectory here path
    | _ => d.ensureDirectory here path

/-- Makes a directory with all above it, as far as they are missing. -/
def makeDirectories (d : Disk) (here : Place) (path : Path) : Except Complaint Disk :=
  d.makeDirectoriesWithin here path path.parts.length

/-! ## Furnishing -/

/-- A disk with one more directory, if it can be made. -/
def withDirectory (d : Disk) (here : Place) (path : Path) : Disk :=
  (d.makeDirectories here path).toOption.getD d

/-- A disk with one more file and what has to be there for it, as far as that can be made. -/
def furnish (d : Disk) (here : Place) (path : Path) (content : ByteArray) : Disk :=
  let d := d.withDirectory here path.parent
  (d.write here path content).toOption.getD d

/-- The directories that every system has. -/
def usualDirectories : List String :=
  ["/bin", "/dev", "/etc", "/lib", "/proc", "/tmp", "/usr", "/var"]

/-- A disk with nothing but these. -/
def usual : Disk := (usualDirectories.map Path.ofText).foldl (fun d p => d.withDirectory [] p) {}

end Disk

end Montage
