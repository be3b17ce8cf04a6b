/-!
Syntax trees as rules see them. Only files, imports, functions and identifiers are told apart;
every other node keeps the tag that its grammar gives it. Offsets are octet offsets into the
source, in 32-bit words.
-/

namespace NamingLint.Syntax

structure Token where
  text : String
  offset : UInt32
  deriving Repr, DecidableEq

/-- The name and the declared return type, the latter exactly as written. -/
structure FunctionDeclaration where
  name : Option Token := none
  returnType : Option Token := none
  deriving Repr, DecidableEq

/-- The text of the name; a function without one counts as named by the empty text. -/
def FunctionDeclaration.nameText (f : FunctionDeclaration) : String :=
  f.name.elim "" Token.text

def FunctionDeclaration.returnText? (f : FunctionDeclaration) : Option String :=
  f.returnType.map Token.text

inductive NodeKind where
  | file
  | importDirective (path : Option String)
  | function (declaration : FunctionDeclaration)
  | identifier (token : Token)
  | other (tag : String)
  deriving Repr, DecidableEq

inductive Node where
  | mk (kind : NodeKind) (offset : UInt32) (children : List Node)

namespace Node

def kind : Node → NodeKind
  | mk kind _ _ => kind

def offset : Node → UInt32
  | mk _ offset _ => offset

def children : Node → List Node
  | mk _ _ children => children

def identifier (token : Token) : Node :=
  mk (.identifier token) token.offset []

/-- A function node has its name, where there is one, as its first child. -/
def function (declaration : FunctionDeclaration) (offset : UInt32) (children : List Node) : Node :=
  mk (.function declaration) offset (declaration.name.toList.map identifier ++ children)

def importPath? (node : Node) : Option String :=
  match node.kind with
  | .importDirective path => path
  | .file | .function _ | .identifier _ | .other _ => none

def function? (node : Node) : Option FunctionDeclaration :=
  match node.kind with
  | .function declaration => some declaration
  | .file | .importDirective _ | .identifier _ | .other _ => none

end Node
end NamingLint.Syntax
