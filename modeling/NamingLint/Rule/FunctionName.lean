import NamingLint.Rule.Basic
import NamingLint.Text.Pattern

/-!
The naming rule for functions. Names are lower camel case, except that a factory method may bear
the name of the type it returns, and that in a file that has imported a test framework above the
function a name may be set in backticks or contain underscores.
-/

namespace NamingLint.FunctionName

open Syntax Text

def isLower (c : Char) : Bool := 'a' ≤ c && c ≤ 'z'

def isLetterOrDigit (c : Char) : Bool :=
  isLower c || ('A' ≤ c && c ≤ 'Z') || ('0' ≤ c && c ≤ '9')

def ordinaryName : Pattern :=
  .seq (.one isLower) (.star (.one isLetterOrDigit))

/-- Between the backticks stands anything but a line feed. -/
def backtickName : Pattern :=
  .seq (.char '\x60') (.seq (.star (.one (· != '\n'))) (.char '\x60'))

def underscoreName : Pattern :=
  .seq (.one isLower) (.star (.one fun c => isLetterOrDigit c || c == '_'))

def testName : Pattern :=
  .alt backtickName underscoreName

def isOrdinaryName (name : String) : Bool :=
  ordinaryName.accepts name.toList

def isTestName (name : String) : Bool :=
  testName.accepts name.toList

def testFrameworks : List String :=
  ["org.junit", "org.testng", "kotlin.test"]

/-- Compares texts, not path components: `org.junitx` counts. -/
def isTestImport (path : String) : Bool :=
  testFrameworks.any fun framework => framework.toList.isPrefixOf path.toList

/-- Compares texts, not types: a qualified return type is not the bare name. -/
def isFactory (f : FunctionDeclaration) : Bool :=
  f.returnText? == some f.nameText

inductive FileState where
  | ordinary
  | test
  deriving Repr, DecidableEq

def FileState.isTest : FileState → Bool
  | ordinary => false
  | test => true

/-- A test file stays one. -/
def FileState.observe : FileState → Option String → FileState
  | .test, _ => .test
  | .ordinary, some path => if isTestImport path then .test else .ordinary
  | .ordinary, none => .ordinary

/-- The record of an import that makes a test file of the file. -/
def FileState.observeLog (state : FileState) (path : Option String) : List Log.Record :=
  match state, path with
  | .ordinary, some path =>
      if isTestImport path then
        [{ level := .debug, source := .functionNaming, message := "test file",
           fields := [("import", .quoted path)] }]
      else []
  | .test, _ | .ordinary, none => []

def ruleId : RuleId := ⟨"experimental", "function-naming"⟩

def message : String :=
  "Function name should start with a lowercase letter (except factory methods) and use camel case"

/-- Where a function without a name is reported. -/
def fallbackOffset : UInt32 := 1

def isAllowed (state : FileState) (f : FunctionDeclaration) : Bool :=
  isFactory f || (state.isTest && isTestName f.nameText) || isOrdinaryName f.nameText

def checkFunction (state : FileState) (f : FunctionDeclaration) : Option Diagnostic :=
  if isAllowed state f then none
  else some
    { rule := ruleId
      offset := f.name.elim fallbackOffset Token.offset
      message
      autoCorrectable := false }

def violationRecord (f : FunctionDeclaration) (d : Diagnostic) : Log.Record :=
  { level := .trace, source := .functionNaming, message := "violation",
    fields := [("name", .quoted f.nameText), ("offset", .count d.offset.toNat)] }

def visit (node : Node) (state : FileState) : Visit FileState :=
  match node.kind with
  | .importDirective path => { state := state.observe path, log := state.observeLog path }
  | .function f =>
      let found := (checkFunction state f).toList
      { state, diagnostics := found, log := found.map (violationRecord f) }
  | .file | .identifier _ | .other _ => { state }

def rule : Rule where
  id := ruleId
  description := "Function names are lower camel case; factory methods and test names are exempt"
  State := FileState
  initial := .ordinary
  visit := visit

end NamingLint.FunctionName
