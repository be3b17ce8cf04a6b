import NamingLint.FileSystem.Resolve

/-!
File systems laid out from a list of paths with what is to stand there. Each item is placed in turn
from the working directory, missing directories on the way are made, and links on the way are
followed.
-/

namespace NamingLint.FileSystem

def put (fs : FileSystem) (entry : Entry) (location : Location) : FileSystem :=
  match Entry.put entry location (.directory fs.root) with
  | .directory root => { fs with root }
  | _ => fs

/-- Goes one segment down, into a new directory where there is nothing. -/
def enter : FileSystem × Location → NativeText → FileSystem × Location
  | (fs, here), segment =>
      if segment = "" ∨ segment = "." then (fs, here)
      else if segment = ".." then (fs, here.dropLast)
      else
        let there := here ++ [segment]
        match fs.entry? there with
        | none => (fs.put (.directory []) there, there)
        | some (.link _) => (fs, (fs.resolveWithin linkLimit here [segment]).toOption.getD there)
        | some _ => (fs, there)

/-- Puts an entry at a location. A directory that is there stays, and a file is written through a
link. -/
def write (fs : FileSystem) (entry : Entry) (directory : Location)
    (name : NativeText) : FileSystem :=
  let location := directory ++ [name]
  match fs.entry? location, entry with
  | some (.directory _), .directory _ => fs
  | some (.link _), .file _ =>
      match fs.resolveWithin linkLimit directory [name] with
      | .ok place => fs.put entry place
      | .error _ => fs
  | _, _ => fs.put entry location

def place (fs : FileSystem) (path : Path) (entry : Entry) : FileSystem :=
  let origin := start fs.workingDirectory path.spelling
  match (path.segments.filter fun s : NativeText => s != "" && s != ".").reverse with
  | [] => fs
  | name :: parents =>
      let (fs, directory) := parents.reverse.foldl enter (fs, origin)
      fs.write entry directory name

/-- The items placed in order around an empty working directory. -/
def ofItems (workingDirectory : Location) (items : List (Path × Entry)) : FileSystem :=
  let empty : FileSystem := { root := [], workingDirectory }
  items.foldl (fun fs (path, entry) => fs.place path entry)
    (empty.put (.directory []) workingDirectory)

end NamingLint.FileSystem
