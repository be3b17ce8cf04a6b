import NamingLint.Config
import NamingLint.Decimal.Shortest
import NamingLint.Text.Quoted
import NamingLint.Toml.Excerpt

/-!
Configurations written in TOML. Each of the three settings is an array of strings; one that is not
written keeps its default, and a key that is none of them is refused, so that a misspelt one does
not go unnoticed. The first fault in the order of the keys is reported, and a fault of the document
before all others.
-/

namespace NamingLint

open Toml

inductive Setting where
  | disabledRules
  | extensions
  | excludeDirs
  deriving Repr, DecidableEq

namespace Setting

def all : List Setting := [disabledRules, extensions, excludeDirs]

def name : Setting → String
  | disabledRules => "disabled_rules"
  | extensions => "extensions"
  | excludeDirs => "exclude_dirs"

def ofName? (name : String) : Option Setting :=
  all.find? fun setting => setting.name == name

def put (setting : Setting) (values : List String) (config : Config) : Config :=
  match setting with
  | disabledRules => { config with disabledRules := values }
  | extensions => { config with extensions := values }
  | excludeDirs => { config with excludeDirs := values }

end Setting

inductive SettingFault where
  | unknown (key : String)
  | notASequence (found : Item)
  | notAString (found : Item)

/-- What an item is, as far as its reader is concerned; dates count as maps. -/
def describeItem : Item → String
  | .scalar (.text s) _ => "string " ++ Text.quote s
  | .scalar (.integer i) _ => "integer \x60" ++ toString i ++ "\x60"
  | .scalar (.float f) _ => "floating point \x60" ++ f.render ++ "\x60"
  | .scalar (.boolean b) _ => "boolean \x60" ++ toString b ++ "\x60"
  | .array _ _ | .tables _ => "sequence"
  | .scalar .dateTime _ | .table _ => "map"

def SettingFault.message : SettingFault → String
  | .unknown key =>
      "unknown field \x60" ++ key ++ "\x60, expected one of " ++
        ", ".intercalate (Setting.all.map fun setting => "\x60" ++ setting.name ++ "\x60")
  | .notASequence found => "invalid type: " ++ describeItem found ++ ", expected a sequence"
  | .notAString found => "invalid type: " ++ describeItem found ++ ", expected a string"

structure ReadingFault where
  span : Span
  fault : SettingFault

def readString (key : Key) : Item → Except ReadingFault String
  | .scalar (.text s) _ => .ok s
  | item => .error ⟨item.span?.getD key.span, .notAString item⟩

def readStrings (key : Key) : Item → Except ReadingFault (List String)
  | .array elements _ => elements.mapM (readString key)
  | .tables reversed => reversed.reverse.mapM fun t => readString key (.table t)
  | item => .error ⟨item.span?.getD key.span, .notASequence item⟩

def readEntry (config : Config) (entry : Key × Item) : Except ReadingFault Config :=
  let (key, item) := entry
  match Setting.ofName? key.text with
  | none => .error ⟨key.span, .unknown key.text⟩
  | some setting => do pure (setting.put (← readStrings key item) config)

def Config.ofTable (table : Table) : Except ReadingFault Config :=
  table.entries.foldlM readEntry {}

/-- A configuration, or the text that says why there is none. -/
def Config.parse (text : List Char) : Except String Config :=
  match Toml.parse text with
  | .error e => .error (excerpt text (charSpan text e.offset) e.complaint.message)
  | .ok table =>
      match Config.ofTable table with
      | .error e => .error (excerpt text e.span e.fault.message)
      | .ok config => .ok config

end NamingLint
