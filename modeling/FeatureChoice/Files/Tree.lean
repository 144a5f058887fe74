import FeatureChoice.Data.OrderedMap
import FeatureChoice.Files.Path
import FeatureChoice.Text.Quoted
/-!
The files that a program sees from its working directory: a tree of directories and of files with
their bytes. A path is followed part by part, so that two dots after a missing directory, or any
part below a plain file, lead nowhere; outside the working directory nothing is known to be there.
-/

namespace FeatureChoice.Files

/-- Why a path cannot be used. -/
inductive Errno where
  | noEntry
  | alreadyThere
  | notDirectory
  | isDirectory
  | nameTooLong
  | nullByte
  deriving DecidableEq, Repr

namespace Errno

def number : Errno → Nat
  | .noEntry => 2
  | .alreadyThere => 17
  | .notDirectory => 20
  | .isDirectory => 21
  | .nameTooLong => 36
  | .nullByte => 0

def message : Errno → String
  | .noEntry => "No such file or directory"
  | .alreadyThere => "File exists"
  | .notDirectory => "Not a directory"
  | .isDirectory => "Is a directory"
  | .nameTooLong => "File name too long"
  | .nullByte => "embedded null byte"

end Errno

/-- An error and the path at which it came up. -/
structure FileError where
  errno : Errno
  path : String
  deriving DecidableEq, Repr

def FileError.message (e : FileError) : String :=
  if e.errno = .nullByte then e.errno.message
  else s!"[Errno {e.errno.number}] {e.errno.message}: {Text.quoted e.path}"

/-- What stands at a place of the tree. -/
inductive Node where
  | directory
  | file (bytes : List UInt8)
  deriving DecidableEq, Repr

/-- Where a path leads: a place below the working directory, or so many directories above it. -/
inductive Place where
  | inside (parts : List String)
  | above (levels : Nat)
  | root
  deriving DecidableEq, Repr

/-- The places below the working directory that hold something. -/
structure Tree where
  nodes : OrderedMap (List String) Node
  deriving DecidableEq, Repr

namespace Tree

def empty : Tree := ⟨.empty⟩

/-- What stands at a place. Directories above are there, and hold nothing that is known. -/
def at? (t : Tree) : Place → Option Node
  | .inside [] => some .directory
  | .inside parts => t.nodes.get? parts
  | .above _ => some .directory
  | .root => some .directory

def maxPartBytes : Nat := 255

/-- The greatest number of bytes in a path. -/
def maxPathBytes : Nat := 4095

/-- One part further. Anything but two dots outside the working directory is missing. -/
def step (place : Place) (part : String) : Except Errno Place :=
  if maxPartBytes < part.utf8ByteSize then .error .nameTooLong
  else match place with
    | .inside parts =>
      if part = Path.up then
        if parts.isEmpty then .ok (.above 1) else .ok (.inside parts.dropLast)
      else .ok (.inside (parts ++ [part]))
    | .above levels => if part = Path.up then .ok (.above (levels + 1)) else .error .noEntry
    | .root => if part = Path.up then .ok .root else .error .noEntry

/-- Follow parts from a place; every place on the way but the last must be a directory. -/
def follow (t : Tree) (place : Place) : List String → Except Errno Place
  | [] => .ok place
  | part :: parts =>
    match t.at? place with
    | none => .error .noEntry
    | some (.file _) => .error .notDirectory
    | some .directory => do
      let next ← step place part
      t.follow next parts

def locate (t : Tree) (p : Path) : Except Errno Place :=
  if p.toText.toList.any (·.toNat = 0) then .error .nullByte
  else if maxPathBytes < p.toText.utf8ByteSize then .error .nameTooLong
  else t.follow (if p.root = "" then .inside [] else .root) p.parts

def find (t : Tree) (p : Path) : Except Errno Node := do
  match t.at? (← t.locate p) with
  | some node => return node
  | none => throw .noEntry

def read (t : Tree) (p : Path) : Except Errno (List UInt8) := do
  match ← t.find p with
  | .file bytes => return bytes
  | .directory => throw .isDirectory

/-- Whether something stands at a path; only a name that is too long is an error. -/
def test (t : Tree) (p : Path) (holds : Node → Bool) : Except Errno Bool :=
  match t.find p with
  | .ok node => .ok (holds node)
  | .error .nameTooLong => .error .nameTooLong
  | .error _ => .ok false

def exists? (t : Tree) (p : Path) : Except Errno Bool := t.test p fun _ => true

def isFile? (t : Tree) (p : Path) : Except Errno Bool := t.test p (· != .directory)

def makeDirectory (t : Tree) (p : Path) : Except Errno Tree := do
  let place ← t.locate p
  match t.at? place, place with
  | some _, _ => throw .alreadyThere
  | none, .inside parts => return ⟨t.nodes.insert parts .directory⟩
  | none, _ => throw .noEntry

/-- Make a directory that may be there already; its parent must be there. -/
def ensureDirectory (t : Tree) (p : Path) : Except Errno Tree :=
  match t.makeDirectory p with
  | .ok t' => .ok t'
  | .error .alreadyThere =>
    match t.find p with
    | .ok .directory => .ok t
    | _ => .error .alreadyThere
  | .error e => .error e

/-- Make a directory and, where they are missing, those above it. What was made before an error
stays. -/
def makeDirectoriesAt (t : Tree) (root : String) : List String → Tree × Option FileError
  | [] => (t, none)
  | parts@(_ :: _) =>
    let here : Path := ⟨root, parts⟩
    let finish (t : Tree) : Tree × Option FileError :=
      match t.ensureDirectory here with
      | .ok t' => (t', none)
      | .error e => (t, some ⟨e, here.toText⟩)
    match t.ensureDirectory here with
    | .error .noEntry =>
      match makeDirectoriesAt t root parts.dropLast with
      | (t', none) => finish t'
      | (t', some e) => (t', some e)
    | _ => finish t
  termination_by parts => parts.length

def makeDirectories (t : Tree) (p : Path) : Tree × Option FileError :=
  t.makeDirectoriesAt p.root p.parts

/-- Make the directory of a path, which must not be there, and those above it where they are
missing. -/
def makeNewDirectory (t : Tree) (p : Path) : Tree × Option FileError :=
  match t.makeDirectory p with
  | .ok t' => (t', none)
  | .error .noEntry =>
    match t.makeDirectories p.parent with
    | (t', some e) => (t', some e)
    | (t', none) =>
      match t'.makeDirectory p with
      | .ok made => (made, none)
      | .error e => (t', some ⟨e, p.toText⟩)
  | .error e => (t, some ⟨e, p.toText⟩)

/-- Put a file with its bytes at a path, making the directories above it. -/
def put (t : Tree) (p : Path) (bytes : List UInt8) : Tree × Option FileError :=
  match t.makeDirectories p.parent with
  | (t', some e) => (t', some e)
  | (t', none) =>
    match t'.locate p with
    | .error e => (t', some ⟨e, p.toText⟩)
    | .ok place =>
      match t'.at? place, place with
      | some .directory, _ => (t', some ⟨.isDirectory, p.toText⟩)
      | _, .inside parts => (⟨t'.nodes.insert parts (.file bytes)⟩, none)
      | _, _ => (t', some ⟨.noEntry, p.toText⟩)

/-- Open a file for more to be written to it, and tell which one it is; one that is not there starts
empty. Outside the working directory every file of a directory is taken to open. -/
def openAt (t : Tree) (directory : Path) (name : String) : Except Errno (Tree × Path) := do
  match ← t.locate directory with
  | .inside _ =>
    match ← t.locate (directory.child name) with
    | .inside parts =>
      match t.at? (.inside parts) with
      | some .directory => throw .isDirectory
      | some (.file _) => return (t, ⟨"", parts⟩)
      | none => return (⟨t.nodes.insert parts (.file [])⟩, ⟨"", parts⟩)
    | _ => throw .isDirectory
  | _ => return (t, directory.child name)

/-- The files in the directory at a path, each with its bytes. -/
def list (t : Tree) (p : Path) : Except Errno (List (String × List UInt8)) := do
  match ← t.find p, ← t.locate p with
  | .file _, _ => throw .notDirectory
  | .directory, .inside parts =>
    return t.nodes.entries.filterMap fun entry =>
      match entry with
      | (place, .file bytes) =>
        if place.dropLast = parts && place ≠ [] then place.getLast?.map fun name => (name, bytes)
        else none
      | (_, .directory) => none
  | .directory, _ => return []

end Tree

end FeatureChoice.Files
