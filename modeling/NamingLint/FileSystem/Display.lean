import NamingLint.SourceFile.Error

/-!
Names under which files are reported: the absolute one of the place a path leads to, and the one
relative to a base directory when that place lies under it. Both are written with forward slashes.
The absolute name must be UTF-8; the relative one is shown with replacement characters if it is not.
-/

namespace NamingLint

def Location.relative (location : Location) : NativeText :=
  ⟨[Path.slash].intercalate (location.map NativeText.octets)⟩

def Location.absolute (location : Location) : NativeText :=
  "/" ++ location.relative

namespace FileSystem

def normalize (fs : FileSystem) (path : Path) : Except SourceError String :=
  match fs.resolve path with
  | .error fault => .error (.unreadable fault)
  | .ok location =>
      match location.absolute.text? with
      | none => .error (.pathNotUtf8 location.absolute.lossy)
      | some name => .ok (Path.forwardSlashes name)

/-- What is left of the place of a path below a base. -/
def below? (fs : FileSystem) (base : Option Location) (path : Path) : Option Location :=
  match fs.resolve path, base with
  | .ok location, some base => base.isPrefixOf? location
  | _, _ => none

/-- A path that does not lead below the base is shown as it is spelled. -/
def displayFrom (fs : FileSystem) (base : Option Location) (path : Path) : String :=
  Path.forwardSlashes <|
    match fs.below? base path with
    | some location => location.relative.lossy
    | none => path.shown

def display (fs : FileSystem) (path base : Path) : String :=
  fs.displayFrom (fs.resolve base).toOption path

end FileSystem
end NamingLint
