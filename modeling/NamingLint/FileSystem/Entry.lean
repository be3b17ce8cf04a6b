import NamingLint.Text.Native

/-!
File systems as trees of directories, files, symbolic links and devices. A location is the list of
names that lead from the root to an entry without passing through a link. Of a sealed entry only
the kind can be had: such a file cannot be opened, and such a directory neither listed nor entered.
-/

namespace NamingLint

inductive Entry where
  | file (octets : List UInt8)
  | directory (entries : List (NativeText × Entry))
  | link (target : NativeText)
  | sealedFile
  | sealedDirectory
  /-- Neither a file nor a directory; its size is given as zero. -/
  | device

abbrev Location := List NativeText

namespace Entry

def isFile : Entry → Bool
  | file _ | sealedFile => true
  | directory _ | link _ | sealedDirectory | device => false

def isDirectory : Entry → Bool
  | directory _ | sealedDirectory => true
  | file _ | link _ | sealedFile | device => false

def get? : Entry → Location → Option Entry
  | entry, [] => some entry
  | directory entries, name :: rest =>
      match entries.lookup name with
      | some entry => entry.get? rest
      | none => none
  | file _, _ :: _ | link _, _ :: _ | sealedFile, _ :: _ | sealedDirectory, _ :: _
  | device, _ :: _ => none

def setIn (name : NativeText) (entry : Entry) :
    List (NativeText × Entry) → List (NativeText × Entry)
  | [] => [(name, entry)]
  | (other, old) :: rest =>
      if other = name then (other, entry) :: rest else (other, old) :: setIn name entry rest

/-- Puts an entry at a location, with the directories that are missing on the way. Anything else on
the way stops it. -/
def put (new : Entry) : Location → Entry → Entry
  | [], _ => new
  | name :: rest, directory entries =>
      directory (setIn name (put new rest ((entries.lookup name).getD (directory []))) entries)
  | _ :: _, old => old

end Entry

/-- The entries of the root, and the place where relative paths begin. -/
structure FileSystem where
  root : List (NativeText × Entry)
  workingDirectory : Location

def FileSystem.entry? (fs : FileSystem) (location : Location) : Option Entry :=
  (Entry.directory fs.root).get? location

end NamingLint
