import NamingLint.Config.Error
import NamingLint.Config.Reading
import NamingLint.FileSystem.Resolve
import NamingLint.Log.Record
import NamingLint.Text.Utf8

/-!
Configurations read from a file system. A file that is asked for by name must be there; the default
file may be missing, and then all settings keep their defaults.
-/

namespace NamingLint.Config

def ofOctets (origin : String) (octets : List UInt8) : Except ConfigError Config :=
  match Text.Utf8.decode octets with
  | .error _ => .error (.unreadable "stream did not contain valid UTF-8")
  | .ok text =>
      match Config.parse text with
      | .error reason => .error (.malformed origin reason)
      | .ok config => .ok config

/-- A file that can be opened is read; one that is sealed cannot be. -/
def read (fs : FileSystem) (path : Path) : Except ConfigError Config :=
  match fs.fileOctets? path with
  | none => .error (.unreadable Fault.denied.message)
  | some octets => ofOctets path.shown octets

def load (fs : FileSystem) (path : Path) : Except ConfigError Config :=
  if fs.isFile path then read fs path else .error (.notFound path.shown)

def loadOrDefault (fs : FileSystem) (path : Path) : Except ConfigError Config :=
  if fs.isFile path then load fs path else .ok {}

/-- What is logged when the defaults stand in for a file. -/
def defaultsLog (fs : FileSystem) (path : Path) : List Log.Record :=
  if fs.isFile path then []
  else
    [{ level := .debug, source := .configuration, message := "no config file, using defaults",
       fields := [("path", .bare path.shown)] }]

end NamingLint.Config
