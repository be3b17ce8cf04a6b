import NamingLint.Kotlin.Grammar.Types

/-!
What functions are made of: parameters, bodies, and the variables that lambdas, loops and
properties declare.
-/

namespace NamingLint.Kotlin.Grammar

open Kotlin.Parser

variable (self : Productions)

def expression : Parser Unit := self (.expression 1)

def assignedValue : Parser Unit := do
  signUnless "=" ['=']
  expression self

def typeClause : Parser Unit := do
  signUnless ":" [':']
  self .type

def parameterModifiers : Parser Unit :=
  node "parameter_modifiers" do
    let one := choice
      [self .annotationEntry, modifierWord "parameter_modifier" ["vararg", "noinline", "crossinline"]]
    one
    many one

def parameter : Parser Unit := do
  optional (parameterModifiers self)
  node "parameter" do
    identifier
    typeClause self
  optional (assignedValue self)

def valueParameters : Parser Unit :=
  node "function_value_parameters" (parenthesized (commaList (parameter self)))

/-- A parameter whose type may be left out. -/
def setterParameter : Parser Unit := do
  optional (parameterModifiers self)
  identifier
  optional (typeClause self)
  optional (assignedValue self)

def functionBody : Parser Unit :=
  node "function_body" do
    if ← nextIs (· == '\x7b') then self .block else assignedValue self

def beginsBody : Parser Bool := do
  if ← nextIs (· == '\x7b') then pure true else applies (signUnless "=" ['='])

/-- A body that may be absent but not broken. -/
def optionalBody : Parser Unit := do
  if ← beginsBody then functionBody self else pure ()

/-- Parameters, return type, constraints and body. -/
def functionRest : Parser Unit := do
  valueParameters self
  if ← applies (signUnless ":" [':']) then typeClause self else pure ()
  optional (typeConstraints self)
  optionalBody self

def variableDeclaration : Parser Unit :=
  node "variable_declaration" do
    many (self .annotationEntry)
    identifier
    optional (typeClause self)

def multiVariableDeclaration : Parser Unit :=
  node "multi_variable_declaration" (parenthesized (commaList (variableDeclaration self)))

def boundVariables : Parser Unit := do
  if ← nextIs (· == '(') then multiVariableDeclaration self else variableDeclaration self

/-- The body of a branch or loop: a block, or one statement. -/
def controlBody : Parser Unit := do
  if ← nextIs (· == '\x7b') then self .block else self .statement

def condition : Parser Unit := parenthesized (expression self)

def block : Parser Unit :=
  node "block" (braced (itemsOf (self .statement)))

def lambdaParameters : Parser Unit :=
  node "lambda_parameters" do
    commaList1 (boundVariables self)
    optional (sign ",")

def lambda : Parser Unit :=
  node "lambda_literal" <| braced do
    optional do optional (lambdaParameters self); sign "->"
    itemsOf (self .statement)

end NamingLint.Kotlin.Grammar
