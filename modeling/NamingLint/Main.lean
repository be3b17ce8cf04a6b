import NamingLint.Command.Run
import NamingLint.FileSystem.Layout

/-!
The program. It takes a picture of what the run may look at, hands it to the run and writes the
outcome. The picture holds the files that the command line names, the default configuration and the
files of variables; a directory is searched as far as such files lie in it. Files whose names are
not UTF-8 are not in the picture.
-/

namespace NamingLint.Program

def readItem? (name : NativeText) : IO (Option (Path × Entry)) := do
  try
    let some text := name.text? | return none
    let octets ← IO.FS.readBinFile text
    return some (⟨name⟩, .file octets.toList)
  catch _ => return none

/-- The files of variables that a run may load. -/
def variableFiles (workingDirectory : Location) : List NativeText :=
  (Environment.ancestors workingDirectory).map fun directory =>
    (Path.join ⟨directory.absolute⟩ Environment.fileName).spelling

def namedFiles : Command → List Path
  | .check options => options.paths ++ options.config.toList
  | .rules config => config.toList

def fileNames (workingDirectory : Location) (arguments : List NativeText) : List NativeText :=
  let named := (Command.parse arguments).toOption.elim [] namedFiles
  (Command.defaultConfig :: named).map Path.spelling ++ variableFiles workingDirectory

def readFileSystem (arguments : List NativeText) : IO FileSystem := do
  let here := toString (← IO.currentDir)
  let workingDirectory := (Path.segmentsOf here).filter fun name : NativeText => name != ""
  let items ← (fileNames workingDirectory arguments).filterMapM readItem?
  return FileSystem.ofItems workingDirectory items

def readEnvironment : IO Environment := do
  try return Environment.ofBlock (← IO.FS.readBinFile "/proc/self/environ").toList
  catch _ => return []

def write (outcome : Outcome) : IO UInt32 := do
  for note in outcome.notes do
    IO.eprintln note
  IO.print outcome.output
  return outcome.exitCode.toUInt32

end NamingLint.Program

def main (arguments : List String) : IO UInt32 := do
  let arguments := arguments.map NamingLint.NativeText.ofText
  let fs ← NamingLint.Program.readFileSystem arguments
  let environment ← NamingLint.Program.readEnvironment
  NamingLint.Program.write (NamingLint.Command.run fs environment arguments)
