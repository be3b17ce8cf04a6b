import NamingLint.Kotlin.Grammar.Statements
import NamingLint.Kotlin.Lowering

/-!
Whole Kotlin sources: an interpreter line, annotations of the file, the package, the imports, and
then statements. Every text has a tree. What cannot be read is passed over one token at a time, two
at the beginning of the file; when a bracket is still open at the end, what was read since the
statement began is kept as an error.
-/

namespace NamingLint.Kotlin

open Kotlin.Parser Grammar

namespace Grammar

def qualifiedIdentifier : Parser Unit :=
  node "qualified_identifier" do
    identifier
    many do sign "."; identifier

/-- A dot before the star or, where the name breaks off, before nothing. -/
def importSuffix : Parser Unit :=
  choice
    [do sign "."; sign "*",
     do keyword "as"; identifier,
     frame do sign "."; reduceAs "ERROR" .plain true]

def importDirective : Parser Unit :=
  node "import" do
    keyword "import"
    qualifiedIdentifier
    optional importSuffix
    optional (sign ";")

def packageHeader : Parser Unit :=
  node "package_header" do
    keyword "package"
    qualifiedIdentifier
    optional (sign ";")

variable (self : Productions)

def fileAnnotationEntry : Parser Unit :=
  node "file_annotation" do
    atSign
    keyword "file"
    sign ":"
    annotationBodies self

def shebangLine : Parser Unit := do
  let n ← look fun s => Lexis.shebang s.rest
  guard (n != 0)
  token (named "shebang") n

def preamble : Parser Unit := do
  optional shebangLine
  many (fileAnnotationEntry self)
  optional packageHeader
  many importDirective

/-- A statement of the file; an open bracket turns all that is left into an error. -/
def topStatement : Parser Bool := fun s =>
  match self .statement { s with nodes := [] } with
  | .done _ next => .done true { next with nodes := next.nodes ++ s.nodes }
  | .mismatch => .done false s
  | .unclosed last =>
      match reduceAs "ERROR" .plain true last with
      | .done _ last => .done true { last with rest := [], nodes := last.nodes ++ s.nodes }
      | .mismatch | .unclosed _ => .done false s

def topLevelWithin : Nat → Bool → Parser Unit
  | 0, _ => pure ()
  | n + 1, begun => do
      if ← atEnd then pure ()
      else if ← attempt (sign ";") then topLevelWithin n begun
      else if ← topStatement self then topLevelWithin n true
      else do
        errorToken
        if begun then pure () else optional errorToken
        topLevelWithin n true

def sourceFile : Parser Unit := do
  let size ← look State.size
  let start ← look State.offset
  preamble self
  let begun ← look fun s => s.offset != start
  topLevelWithin self size begun

end Grammar

def skipBlanks : Nat → List Char → Nat × List Char
  | offset, c :: rest => if Lexis.isBlank c then skipBlanks (offset + 1) rest else (offset, c :: rest)
  | offset, [] => (offset, [])

/-- A byte order mark at the beginning is skipped but counts in offsets. -/
def skipMark : List Char → Nat × List Char
  | c :: rest => if c == '\uFEFF' then (c.utf8Size, rest) else (0, c :: rest)
  | [] => (0, [])

/-- More than the grammar's depth can be on a text of this length. -/
def depthBound (size : Nat) : Nat := 16 * size + 64

def parseConcrete (source : List Char) : Concrete :=
  let (mark, text) := skipMark source
  let (start, text) := skipBlanks mark text
  let size := source.length + 1
  let state : State :=
    { rest := text, offset := start, broke := false, breaks := true, lambdas := true, size, nodes := [] }
  let root (stop : Nat) (nodes : List Concrete) : Concrete :=
    .node { kind := "source_file", named := true, start, stop } nodes.reverse
  match (do trivia; Grammar.sourceFile (grammar (depthBound size)) : Parser Unit) state with
  | .done _ last => root last.offset last.nodes
  | .mismatch => root start []
  | .unclosed last => root last.offset last.nodes

def parse (source : List Char) : Syntax.Node :=
  assemble source (parseConcrete source)

end NamingLint.Kotlin
