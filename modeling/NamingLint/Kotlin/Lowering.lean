import NamingLint.Kotlin.Concrete
import NamingLint.Syntax.Node
import NamingLint.Text.Slice
import NamingLint.Text.Space

/-!
From concrete trees to syntax trees. Only named children that are not extra are kept, and among
the extra ones those that could not be read, since they may hold declarations. `lower` says by
recursion what becomes of a tree; `assemble` builds it with a stack of half-built nodes, so that a
deep tree needs no deep recursion.
-/

namespace NamingLint.Kotlin

open Syntax

def isIdentifierKind (kind : String) : Bool :=
  kind == "identifier" || kind == "simple_identifier"

def isParameterKind (kind : String) : Bool :=
  kind == "function_value_parameters" || kind == "function_parameters"

def isImportKind (kind : String) : Bool :=
  kind == "import" || kind == "import_header"

/-- The kinds of which the path of an import is made. -/
def isPathKind (kind : String) : Bool :=
  kind == "qualified_identifier" || isIdentifierKind kind || kind == "."

namespace Concrete

def text (source : List Char) (c : Concrete) : List Char :=
  Text.slice source c.head.start c.head.stop

def token (source : List Char) (c : Concrete) : Token :=
  ⟨String.ofList (c.text source), c.head.start.toUInt32⟩

def isIdentifier (c : Concrete) : Bool := isIdentifierKind c.kind

def isParameters (c : Concrete) : Bool := isParameterKind c.kind

/-- The children that the grammar puts there. -/
def proper (children : List Concrete) : List Concrete :=
  children.filter fun c => !c.head.extra

/-- Concatenates path pieces until something else follows a text; what precedes it is skipped. -/
def pathText (source : List Char) : List Char → List Concrete → List Char
  | read, [] => read
  | read, c :: rest =>
      if isPathKind c.kind then pathText source (read ++ c.text source) rest
      else if read.isEmpty then pathText source read rest
      else read

def dropTrailingDots (text : List Char) : List Char :=
  (text.reverse.dropWhile (· == '.')).reverse

def importPath (source : List Char) (children : List Concrete) : Option String :=
  let path := dropTrailingDots (Text.removeSpace (pathText source [] (proper children)))
  if path.isEmpty then none else some (String.ofList path)

def nameField? (children : List Concrete) : Option Concrete :=
  (children.find? fun c => c.head.role == .name).filter isIdentifier

/-- What was seen of a function declaration so far. -/
structure Signature where
  name : Option Concrete
  returnType : Option Concrete := none
  seenParameters : Bool := false
  afterColon : Bool := false

/-- Reads the children in their order. Up to the parameters the last identifier counts, since a
receiver comes before the name; behind them a colon and then a named child at once. -/
def readSignature (namedByField : Bool) : Signature → List Concrete → Signature
  | seen, [] => seen
  | seen, c :: rest =>
      if c.head.extra then readSignature namedByField seen rest
      else if !seen.seenParameters then
        if c.isParameters then readSignature namedByField { seen with seenParameters := true } rest
        else if !namedByField && c.isIdentifier then
          readSignature namedByField { seen with name := some c } rest
        else readSignature namedByField seen rest
      else if c.kind == ":" && !seen.afterColon then
        readSignature namedByField { seen with afterColon := true } rest
      else if seen.afterColon && c.head.named then { seen with returnType := some c }
      else seen

def functionDeclaration (source : List Char) (children : List Concrete) : FunctionDeclaration :=
  let field := nameField? children
  let signature := readSignature field.isSome { name := field } children
  { name := signature.name.map (token source)
    returnType := signature.returnType.map (token source) }

def nodeKind (source : List Char) (c : Concrete) : NodeKind :=
  if c.kind == "source_file" then .file
  else if isImportKind c.kind then .importDirective (importPath source c.children)
  else if c.kind == "function_declaration" then .function (functionDeclaration source c.children)
  else if c.isIdentifier then .identifier (c.token source)
  else .other c.kind

def isKept (c : Concrete) : Bool :=
  c.head.named && (!c.head.extra || c.head.isError)

def kept (c : Concrete) : List Concrete :=
  c.children.filter isKept

mutual

def lower (source : List Char) : Concrete → Node
  | node head children =>
      .mk (nodeKind source (node head children)) head.start.toUInt32 (lowerKept source children)

def lowerKept (source : List Char) : List Concrete → List Node
  | [] => []
  | c :: rest =>
      if c.isKept then lower source c :: lowerKept source rest else lowerKept source rest

end

end Concrete

/-- A node under construction: the children lowered so far, last first, and those to come. -/
structure Frame where
  kind : NodeKind
  offset : UInt32
  lowered : List Node
  pending : List Concrete

namespace Frame

def ofConcrete (source : List Char) (c : Concrete) : Frame :=
  { kind := c.nodeKind source, offset := c.head.start.toUInt32, lowered := [], pending := c.kept }

def close (frame : Frame) : Node :=
  .mk frame.kind frame.offset frame.lowered.reverse

def push (frame : Frame) (child : Node) : Frame :=
  { frame with lowered := child :: frame.lowered }

end Frame

inductive Progress where
  | running (stack : List Frame)
  | finished (root : Node)
  | stuck

/-- Opens the next pending child of the innermost frame, or closes that frame. -/
def advance (source : List Char) : List Frame → Progress
  | [] => .stuck
  | frame :: outer =>
      match frame.pending, outer with
      | child :: rest, _ => .running (.ofConcrete source child :: { frame with pending := rest } :: outer)
      | [], parent :: outer => .running (parent.push frame.close :: outer)
      | [], [] => .finished frame.close

def assembleWithin (source : List Char) : Nat → List Frame → Option Node
  | 0, _ => none
  | n + 1, stack =>
      match advance source stack with
      | .running stack => assembleWithin source n stack
      | .finished root => some root
      | .stuck => none

def assemble (source : List Char) (root : Concrete) : Node :=
  (assembleWithin source (2 * root.size) [.ofConcrete source root]).getD (.mk .file 0 [])

end NamingLint.Kotlin
