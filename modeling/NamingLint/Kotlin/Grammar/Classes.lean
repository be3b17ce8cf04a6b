import NamingLint.Kotlin.Grammar.Declarations

/-!
Class declarations with their bodies, and the choice among all declarations. After an enumeration
entry whose body ends in a member without a line end or semicolon, what follows the entries is read
as expressions. The body of a companion that ends so is an error where a closing brace follows on
the same line.
-/

namespace NamingLint.Kotlin.Grammar

open Kotlin.Parser

variable (self : Productions)

/-- The head of a class up to its body. -/
def classHead : Parser Unit := do
  choice [keyword "class", do optional (keyword "fun"); keyword "interface"]
  identifier .name
  optional (typeParameters self)
  optional (primaryConstructor self)
  optional (delegationSpecifiers self)
  optional (typeConstraints self)

/-- A class; its body is read by `self`, so a class nested in it needs no further case here. -/
def classDeclaration : Parser Unit := do
  let enumeration ← look fun s => isEnumeration s.nodes
  classHead self
  let bodied ← nextIs (· == '\x7b')
  if bodied then self (if enumeration then .enumBody else .classBody) else pure ()
  reduce "class_declaration"

def plainDeclaration : Parser Unit :=
  choice
    [classDeclaration self, functionDeclaration self, propertyDeclaration self,
     objectDeclaration self, typeAlias self]

def declaration : Parser Unit :=
  frame do
    optional (modifiers self)
    plainDeclaration self

def member : Parser Unit :=
  frame do
    optional (modifiers self)
    choice [companionObject self, secondaryConstructor self, initializer self, plainDeclaration self]

def members : Parser Unit := itemsOf (member self)

def classBody : Parser Unit := do
  let _ ← memberBody (members self)

def companionBody : Parser Unit :=
  frame do
    let cramped ← memberBody (members self)
    let closed ← look fun s => !s.broke && s.rest.head?.any (· == '\x7d')
    if cramped && closed then reduceAs "ERROR" .plain true else pure ()

def enumEntry : Parser Bool :=
  frame do
    optional (modifiers self)
    identifier
    optional (self .arguments)
    let cramped ← do
      if ← nextIs (· == '\x7b') then memberBody (members self) else pure false
    reduce "enum_entry"
    pure cramped

def enumEntriesWithin : Nat → Bool → Parser Bool
  | 0, cramped => pure cramped
  | n + 1, cramped =>
      orElse
        (do
          let last ← enumEntry self
          let cramped := cramped || last
          if ← attempt (sign ",") then enumEntriesWithin n cramped else pure cramped)
        (pure cramped)

def enumBody : Parser Unit :=
  node "enum_class_body" <| braced do
    let bound ← look State.size
    let cramped ← enumEntriesWithin self bound false
    itemsOf (if cramped then expression self else member self)

end NamingLint.Kotlin.Grammar
