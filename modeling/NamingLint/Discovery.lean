import NamingLint.Config
import NamingLint.FileSystem.Resolve
import NamingLint.Log.Record

/-!
Which files a run looks at. A root that leads to a file stands for itself, whatever its name; a root
that leads to a directory stands for the files below it whose extension is accepted. Below a root
links are neither followed nor taken for files, and directories with an excluded name are passed
over; a directory that cannot be listed is logged and stands for nothing. The result is in path
order, and of paths with equal components the first spelling stays.
-/

namespace NamingLint.Discovery

/-- The extension of the name is on the list; one that is not UTF-8 never is. -/
def accepts (config : Config) (name : NativeText) : Bool :=
  ((Path.extension? name).bind NativeText.text?).any config.acceptsExtension

mutual

def found (config : Config) (path : Path) (name : NativeText) : Entry → List Path
  | .file _ | .sealedFile => if accepts config name then [path] else []
  | .directory entries => if config.excludesDir name.lossy then [] else foundIn config path entries
  | .link _ | .sealedDirectory | .device => []

def foundIn (config : Config) (directory : Path) : List (NativeText × Entry) → List Path
  | [] => []
  | (name, entry) :: rest =>
      found config (directory.join name) name entry ++ foundIn config directory rest

end

mutual

/-- The directories that a walk cannot list. -/
def unlisted (config : Config) (path : Path) (name : NativeText) : Entry → List Path
  | .sealedDirectory => if config.excludesDir name.lossy then [] else [path]
  | .directory entries =>
      if config.excludesDir name.lossy then [] else unlistedIn config path entries
  | .file _ | .link _ | .sealedFile | .device => []

def unlistedIn (config : Config) (directory : Path) : List (NativeText × Entry) → List Path
  | [] => []
  | (name, entry) :: rest =>
      unlisted config (directory.join name) name entry ++ unlistedIn config directory rest

end

structure MissingRoot where
  root : Path
  deriving Repr, DecidableEq

def MissingRoot.message (e : MissingRoot) : String :=
  "No such file or directory: " ++ e.root.shown

def ofRoot (fs : FileSystem) (config : Config) (root : Path) : Except MissingRoot (List Path) :=
  match fs.target root with
  | .ok (.file _) | .ok .sealedFile => .ok [root]
  | .ok (.directory entries) => .ok (foundIn config root entries)
  | .ok .sealedDirectory => .ok []
  | .ok (.link _) | .ok .device | .error _ => .error ⟨root⟩

def unlistedAt (fs : FileSystem) (config : Config) (root : Path) : List Path :=
  match fs.target root with
  | .ok (.directory entries) => unlistedIn config root entries
  | .ok .sealedDirectory => [root]
  | .ok _ | .error _ => []

def unlistedRecord (directory : Path) : Log.Record :=
  { level := .warn, source := .command, message := "walk error",
    fields := [("error", .bare
      ("IO error for operation on " ++ directory.shown ++ ": " ++ Fault.denied.message))] }

/-- What is logged of the roots, up to the first one that is missing. -/
def walkLog (fs : FileSystem) (config : Config) : List Path → List Log.Record
  | [] => []
  | root :: rest =>
      match ofRoot fs config root with
      | .error _ => []
      | .ok _ => (unlistedAt fs config root).map unlistedRecord ++ walkLog fs config rest

/-- Of neighbours that are the same path the first is kept. -/
def dropRepeats : List Path → List Path
  | [] => []
  | [path] => [path]
  | first :: second :: rest =>
      if first.same second then dropRepeats (first :: rest)
      else first :: dropRepeats (second :: rest)
  termination_by paths => paths.length

def arrange (paths : List Path) : List Path :=
  dropRepeats (paths.mergeSort Path.le)

def files (fs : FileSystem) (config : Config) (roots : List Path) :
    Except MissingRoot (List Path) := do
  let found ← roots.mapM (ofRoot fs config)
  return arrange found.flatten

end NamingLint.Discovery
