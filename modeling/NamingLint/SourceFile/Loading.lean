import NamingLint.FileSystem.Display
import NamingLint.Kotlin.Source
import NamingLint.Log.Record
import NamingLint.SourceFile
import NamingLint.Text.Slice

/-!
Source files read from a file system. A file is named by the absolute path of the place where it
lies; it must be short enough for 32-bit offsets, and it and that path must be UTF-8 throughout.
Every such file has a tree.
-/

namespace NamingLint.SourceFile

/-- The greatest number of octets in a source. -/
def sizeLimit : Nat := 0xFFFFFFFF

def decode (name : String) (octets : List UInt8) : Except SourceError SourceFile :=
  match Text.Utf8.decode octets with
  | .error failure => .error (.notUtf8 name failure)
  | .ok text => .ok { path := name, text, tree := Kotlin.parse text }

/-- The source that an opened file holds. -/
def ofOctets (fs : FileSystem) (path : Path) (octets : List UInt8) :
    Except SourceError SourceFile :=
  if octets.length > sizeLimit then .error .tooLarge
  else match fs.normalize path with
    | .error error => .error error
    | .ok name => decode name octets

/-- A directory can be opened, but not be mapped; a device is empty by its size. -/
def load (fs : FileSystem) (path : Path) : Except SourceError SourceFile :=
  match fs.target path with
  | .error fault => .error (.unreadable fault)
  | .ok .sealedFile | .ok .sealedDirectory => .error (.unreadable .denied)
  | .ok (.directory _) | .ok (.link _) =>
      match fs.normalize path with
      | .error error => .error error
      | .ok _ => .error (.unreadable .notMappable)
  | .ok (.file octets) => ofOctets fs path octets
  | .ok .device => ofOctets fs path []

def parsedRecord (file : SourceFile) : Log.Record :=
  { level := .debug, source := .frontEnd, message := "parsed",
    fields := [("path", .bare file.path), ("bytes", .count (Text.octets file.text))] }

end NamingLint.SourceFile
