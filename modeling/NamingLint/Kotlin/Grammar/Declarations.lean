import NamingLint.Kotlin.Grammar.Expressions

/-!
Declarations: functions, properties, classes and their members, objects and type aliases, each
after its modifiers. A declaration leaves one node, which begins at its first modifier.
-/

namespace NamingLint.Kotlin.Grammar

open Kotlin.Parser

variable (self : Productions)

def modifierClasses : List (String × List String) :=
  [("class_modifier", ["enum", "sealed", "annotation", "data", "inner", "value"]),
   ("member_modifier", ["override", "lateinit"]),
   ("visibility_modifier", ["public", "private", "internal", "protected"]),
   ("function_modifier", ["tailrec", "operator", "infix", "inline", "external", "suspend"]),
   ("property_modifier", ["const"]),
   ("inheritance_modifier", ["abstract", "final", "open"]),
   ("parameter_modifier", ["vararg", "noinline", "crossinline"]),
   ("platform_modifier", ["expect", "actual"])]

def modifier : Parser Unit :=
  choice
    (self .annotationEntry :: modifierClasses.map fun (kind, words) => modifierWord kind words)

def modifiers : Parser Unit :=
  node "modifiers" do
    modifier self
    many (modifier self)

def functionDeclaration : Parser Unit := do
  keyword "fun"
  optional (typeParameters self)
  optional (receiver self)
  identifier .name
  functionRest self
  reduce "function_declaration"

def getter : Parser Unit :=
  node "getter" do
    optional (modifiers self)
    keyword "get"
    optional do
      sign "("
      closing ")"
      optional (typeClause self)
      functionBody self

def setter : Parser Unit :=
  node "setter" do
    optional (modifiers self)
    keyword "set"
    optional do
      parenthesized do setterParameter self; optional (sign ",")
      optional (typeClause self)
      functionBody self

/-- An accessor without a body ends where a statement ends. -/
def accessor : Parser Unit := do
  many (sign ";")
  choice [getter self, setter self]
  let ended ← look fun s => s.broke || s.rest.head?.all fun c => c == ';' || c == '\x7d'
  let bodied ← look fun s => s.nodes.head?.any fun c => c.children.any fun d => d.kind == "function_body"
  guard (ended || bodied)

def propertyDelegate : Parser Unit :=
  node "property_delegate" do
    keyword "by"
    expression self

def propertyDeclaration : Parser Unit := do
  choice [keyword "val", keyword "var"]
  optional (typeParameters self)
  optional (receiver self)
  boundVariables self
  optional (typeConstraints self)
  choice [assignedValue self, propertyDelegate self, pure ()]
  many (accessor self)
  reduce "property_declaration"

def classParameter : Parser Unit :=
  node "class_parameter" do
    optional (modifiers self)
    optional (choice [keyword "val", keyword "var"])
    identifier
    typeClause self
    optional (assignedValue self)

def classParameters : Parser Unit :=
  node "class_parameters" (parenthesized (commaList (classParameter self)))

def primaryConstructor : Parser Unit :=
  node "primary_constructor" do
    optional do optional (modifiers self); keyword "constructor"
    classParameters self

def delegationCall : Parser Unit :=
  node "constructor_delegation_call" do
    choice [keyword "this", keyword "super"]
    self .arguments

def secondaryConstructor : Parser Unit := do
  keyword "constructor"
  valueParameters self
  optional do sign ":"; delegationCall self
  if ← nextIs (· == '\x7b') then self .block else pure ()
  reduce "secondary_constructor"

def initializer : Parser Unit := do
  keyword "init"
  self .block
  reduce "anonymous_initializer"

def optionalClassBody : Parser Unit := do
  if ← nextIs (· == '\x7b') then self .classBody else pure ()

def companionObject : Parser Unit := do
  keyword "companion"
  keyword "object"
  optional identifier
  optional (delegationSpecifiers self)
  if ← nextIs (· == '\x7b') then self .companionBody else pure ()
  reduce "companion_object"

def objectDeclaration : Parser Unit := do
  keyword "object"
  identifier .name
  optional (delegationSpecifiers self)
  optionalClassBody self
  reduce "object_declaration"

def typeAlias : Parser Unit := do
  keyword "typealias"
  identifier .name
  optional (typeParameters self)
  signUnless "=" ['=']
  self .type
  reduce "type_alias"

/-- Whether the modifiers read so far make an enumeration of a class. -/
def isEnumeration (nodes : List Concrete) : Bool :=
  nodes.any fun c => c.kind == "modifiers" && c.children.any fun m =>
    m.children.any fun word => word.kind == "enum"

/-- The members between braces, and whether the last one ends at the closing brace itself, on its
line and without a semicolon. -/
def memberBody (members : Parser Unit) : Parser Bool :=
  frame do
    let cramped ← within true true do
      sign "\x7b"
      members
      let cramped ← look fun s =>
        !s.broke && (s.nodes.find? fun c => !isComment c).any fun c => c.head.named
      closing "\x7d"
      pure cramped
    reduce "class_body"
    pure cramped

end NamingLint.Kotlin.Grammar
