import NamingLint.FileSystem.Entry
import NamingLint.FileSystem.Path

/-!
Where a path leads. Every name is looked up in a directory, the parent of a directory is the one it
lies in, and a link is replaced by its target, at most forty times for one path. An empty segment
or a dot stays where it is, but only in a directory, so a slash after a file is a fault. A sealed
directory can be come to and not be left again, not even by a dot.
-/

namespace NamingLint

inductive Fault where
  | notFound
  | notADirectory
  | tooManyLinks
  | notMappable
  | denied
  deriving Repr, DecidableEq

def Fault.message : Fault → String
  | notFound => "No such file or directory (os error 2)"
  | notADirectory => "Not a directory (os error 20)"
  | tooManyLinks => "Too many levels of symbolic links (os error 40)"
  | notMappable => "No such device (os error 19)"
  | denied => "Permission denied (os error 13)"

namespace FileSystem

/-- Follows segments from a location; `follow` goes on where a link is met, given the directory that
holds it, its target and the segments after it. -/
def walk (fs : FileSystem)
    (follow : Location → NativeText → List NativeText → Except Fault Location) :
    Location → List NativeText → Except Fault Location
  | here, [] => .ok here
  | here, segment :: rest =>
      match fs.entry? here with
      | some (.directory entries) =>
          if segment = "" ∨ segment = "." then walk fs follow here rest
          else if segment = ".." then walk fs follow here.dropLast rest
          else match entries.lookup segment with
            | none => .error .notFound
            | some (.link target) => follow here target rest
            | some _ => walk fs follow (here ++ [segment]) rest
      | some .sealedDirectory =>
          if segment = "" then walk fs follow here rest else .error .denied
      | some (.file _) | some (.link _) | some .sealedFile | some .device | none =>
          .error .notADirectory

/-- Where a text that is a path begins. -/
def start (here : Location) (text : NativeText) : Location :=
  if Path.startsAtRoot text then [] else here

/-- Follows segments and up to `links` links. -/
def resolveWithin (fs : FileSystem) :
    Nat → Location → List NativeText → Except Fault Location
  | 0 => fs.walk fun _ _ _ => .error .tooManyLinks
  | links + 1 => fs.walk fun here target rest =>
      resolveWithin fs links (start here target) (Path.segmentsOf target ++ rest)

def linkLimit : Nat := 40

def resolve (fs : FileSystem) (path : Path) : Except Fault Location :=
  if path.spelling = "" then .error .notFound
  else fs.resolveWithin linkLimit (start fs.workingDirectory path.spelling) path.segments

/-- What a path leads to, links followed. -/
def target (fs : FileSystem) (path : Path) : Except Fault Entry := do
  let location ← fs.resolve path
  ( fs.entry? location).elim (.error .notFound) .ok

def isFile (fs : FileSystem) (path : Path) : Bool :=
  match fs.target path with
  | .ok entry => entry.isFile
  | .error _ => false

/-- The octets of the file at a path, when it can be opened. -/
def fileOctets? (fs : FileSystem) (path : Path) : Option (List UInt8) :=
  match fs.target path with
  | .ok (.file octets) => some octets
  | .ok _ | .error _ => none

end FileSystem
end NamingLint
