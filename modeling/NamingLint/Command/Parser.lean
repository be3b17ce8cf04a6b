import NamingLint.Command
import NamingLint.Command.Argument

/-!
Command lines. Options and paths may come in any order. What an option or a run of paths was given
is held back until the next option of the command or the end settles it, so an argument that the
command does not know is reported before a bad value that was held back.
-/

namespace NamingLint

inductive UsageError where
  | unknownArgument
  | invalidValue
  | repeatedOption
  | unknownCommand
  | unneededValue
  | notUtf8
  | missingCommand
  | helpRequested
  deriving Repr, DecidableEq

namespace UsageError

def exitCode : UsageError → UInt8
  | helpRequested => 0
  | unknownArgument | invalidValue | repeatedOption | unknownCommand | unneededValue | notUtf8
  | missingCommand => 2

def message : UsageError → String
  | unknownArgument => "unexpected argument"
  | invalidValue => "invalid or missing value"
  | repeatedOption => "an option is given more than once"
  | unknownCommand => "unrecognized subcommand"
  | unneededValue => "a flag takes no value"
  | notUtf8 => "invalid UTF-8 was detected in one or more arguments"
  | missingCommand => "a subcommand is required"
  | helpRequested => "Usage: kolint <check|rules|help> [OPTIONS] [PATHS]..."

end UsageError

/-- Options that take a value. -/
inductive ValueOption where
  | config
  | format
  | disable
  deriving Repr, DecidableEq

inductive Flag where
  | verbose
  | help
  deriving Repr, DecidableEq

/-- What one subcommand understands. -/
structure Dialect where
  options : List (NativeText × ValueOption)
  flags : List (NativeText × Flag)
  letters : List (UInt8 × Flag)
  takesPaths : Bool

namespace Dialect

def check : Dialect where
  options := [("config", .config), ("format", .format), ("disable", .disable)]
  flags := [("verbose", .verbose), ("help", .help)]
  letters := [('v'.toUInt8, .verbose), ('h'.toUInt8, .help)]
  takesPaths := true

def rules : Dialect where
  options := [("config", .config)]
  flags := [("help", .help)]
  letters := [('h'.toUInt8, .help)]
  takesPaths := false

end Dialect

/-- The settings made so far; an option that may be given once is absent until it is. -/
structure Settings where
  paths : List Path := []
  config : Option Path := none
  format : Option Report.Format := none
  disable : List String := []
  verbose : Bool := false
  deriving Repr, DecidableEq

def Report.Format.ofName? (name : NativeText) : Option Report.Format :=
  if name = "plain" then some .plain else if name = "json" then some .json else none

namespace Settings

def setConfig (settings : Settings) (value : NativeText) : Except UsageError Settings :=
  if settings.config.isSome then .error .repeatedOption
  else if value = "" then .error .invalidValue
  else .ok { settings with config := some ⟨value⟩ }

def setFormat (settings : Settings) (value : NativeText) : Except UsageError Settings :=
  if settings.format.isSome then .error .repeatedOption
  else match Report.Format.ofName? value with
    | none => .error .invalidValue
    | some format => .ok { settings with format := some format }

def addDisabled (settings : Settings) (value : NativeText) : Except UsageError Settings :=
  match value.text? with
  | none => .error .notUtf8
  | some rule => .ok { settings with disable := settings.disable ++ [rule] }

def set (settings : Settings) (value : NativeText) : ValueOption → Except UsageError Settings
  | .config => settings.setConfig value
  | .format => settings.setFormat value
  | .disable => settings.addDisabled value

def raise (settings : Settings) : Flag → Except UsageError Settings
  | .help => .error .helpRequested
  | .verbose =>
      if settings.verbose then .error .repeatedOption else .ok { settings with verbose := true }

def addPaths (settings : Settings) (paths : List NativeText) : Except UsageError Settings :=
  if paths.contains "" then .error .invalidValue
  else .ok { settings with paths := settings.paths ++ paths.map Path.mk }

end Settings

/-- Values that are not settled yet. -/
inductive Pending where
  | nothing
  | awaiting (option : ValueOption)
  | given (option : ValueOption) (value : NativeText)
  | paths (values : List NativeText)
  deriving Repr, DecidableEq

def Pending.settle : Pending → Settings → Except UsageError Settings
  | nothing, settings => .ok settings
  | awaiting _, _ => .error .invalidValue
  | given option value, settings => settings.set value option
  | paths values, settings => settings.addPaths values

structure Reading where
  settings : Settings := {}
  pending : Pending := .nothing
  /-- Whether two dashes were met, after which everything is a path. -/
  separated : Bool := false
  deriving Repr, DecidableEq

namespace Reading

def settle (r : Reading) : Except UsageError Reading := do
  return { r with settings := ← r.pending.settle r.settings, pending := .nothing }

def path (dialect : Dialect) (r : Reading) (text : NativeText) : Except UsageError Reading :=
  if dialect.takesPaths then
    match r.pending with
    | .paths values => .ok { r with pending := .paths (values ++ [text]) }
    | .nothing | .awaiting _ | .given _ _ => do
        return { ← r.settle with pending := .paths [text] }
  else .error .unknownArgument

def raise (r : Reading) (flag : Flag) : Except UsageError Reading := do
  let r ← r.settle
  return { r with settings := ← r.settings.raise flag }

def option (r : Reading) (option : ValueOption) : Option NativeText → Except UsageError Reading
  | none => do return { ← r.settle with pending := .awaiting option }
  | some value => do
      let r ← r.settle
      return { r with settings := ← r.settings.set value option }

def long (dialect : Dialect) (r : Reading) (name : NativeText) (attached : Option NativeText) :
    Except UsageError Reading :=
  match dialect.options.lookup name, dialect.flags.lookup name with
  | some option, _ => r.option option attached
  | none, some flag => if attached.isSome then .error .unneededValue else r.raise flag
  | none, none => .error .unknownArgument

def letter (dialect : Dialect) (r : Reading) (octet : UInt8) : Except UsageError Reading :=
  match dialect.letters.lookup octet with
  | some flag => r.raise flag
  | none => .error .unknownArgument

def word (dialect : Dialect) (r : Reading) (text : NativeText) : Except UsageError Reading :=
  match r.pending with
  | .awaiting option => .ok { r with pending := .given option text }
  | .nothing | .given _ _ | .paths _ => r.path dialect text

def step (dialect : Dialect) (r : Reading) (text : NativeText) : Except UsageError Reading :=
  if r.separated then r.path dialect text
  else match Argument.ofText text with
    | .separator => .ok { r with separated := true }
    | .long name attached => r.long dialect name attached
    | .short letters => letters.foldlM (letter dialect) r
    | .word => r.word dialect text

end Reading

def Dialect.read (dialect : Dialect) (arguments : List NativeText) :
    Except UsageError Settings := do
  let r ← arguments.foldlM (Reading.step dialect) {}
  return (← r.settle).settings

def Settings.checkOptions (s : Settings) : CheckOptions where
  paths := s.paths
  config := s.config
  format := s.format.getD .plain
  disable := s.disable
  verbose := s.verbose

inductive Subcommand where
  | check
  | rules
  | help
  deriving Repr, DecidableEq

namespace Subcommand

def ofName? (name : NativeText) : Option Subcommand :=
  if name = "check" then some check
  else if name = "rules" then some rules
  else if name = "help" then some help
  else none

/-- Help is had about one subcommand at most. -/
def helpAbout : List NativeText → UsageError
  | [] => .helpRequested
  | [name] => if (ofName? name).isSome then .helpRequested else .unknownCommand
  | _ :: _ :: _ => .unknownCommand

def read : Subcommand → List NativeText → Except UsageError Command
  | check, arguments => do return .check (← Dialect.check.read arguments).checkOptions
  | rules, arguments => do return .rules (← Dialect.rules.read arguments).config
  | help, topics => .error (helpAbout topics)

end Subcommand

namespace Command

/-- After two dashes even the name of a subcommand is none. -/
def afterSeparator : List NativeText → UsageError
  | [] => .missingCommand
  | name :: _ => if (Subcommand.ofName? name).isSome then .unknownArgument else .unknownCommand

/-- A first argument that is an option; only help is one. -/
def leadingOption : Argument → UsageError
  | .long name attached =>
      if name = "help" then if attached.isSome then .unneededValue else .helpRequested
      else .unknownArgument
  | .short letters => if letters.head? = some 'h'.toUInt8 then .helpRequested else .unknownArgument
  | .separator | .word => .unknownCommand

/-- The command that the arguments after the program's name ask for. -/
def parse : List NativeText → Except UsageError Command
  | [] => .error .missingCommand
  | first :: rest =>
      match Subcommand.ofName? first, Argument.ofText first with
      | some subcommand, _ => subcommand.read rest
      | none, .separator => .error (afterSeparator rest)
      | none, argument => .error (leadingOption argument)

end Command
end NamingLint
