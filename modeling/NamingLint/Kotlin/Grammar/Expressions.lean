import NamingLint.Kotlin.Grammar.Functions
import NamingLint.Kotlin.Grammar.Literals

/-!
Expressions. Binary operators have levels from one, the loosest; an operand is a prefix form, and a
prefix form ends in a postfix form. A word is an operator's name only where an operator can stand,
so most keywords are names elsewhere.
-/

namespace NamingLint.Kotlin.Grammar

open Kotlin.Parser

variable (self : Productions)

/-- Words that begin no operand as names. -/
def reservedWords : List String :=
  ["fun", "class", "interface", "val", "var", "object", "if", "else", "when", "try", "for",
   "while", "do", "return", "throw", "this", "super", "typealias", "in", "is", "as"]

def nameExpression : Parser Unit := do
  guard !(← wordIn reservedWords)
  identifier

/-- A name that stands at once after an `@`, which itself stands at once after the word before. -/
def attachedName (kind : String) : Parser Unit :=
  optional do
    let n ← look fun s =>
      match s.rest with
      | '@' :: rest => Lexis.identifier rest
      | _ => 0
    guard (n != 0)
    leaf (anonymous "@") 1
    leaf (named kind) n

def thisExpression : Parser Unit :=
  node "this_expression" do
    guard ((← nextWord) == "this")
    leaf (anonymous "this") 4
    attachedName "identifier"
    trivia

def superExpression : Parser Unit :=
  node "super_expression" do
    guard ((← nextWord) == "super")
    leaf (anonymous "super") 5
    optional do sign "<"; self .type; sign ">"
    attachedName "identifier"
    trivia

def returnExpression : Parser Unit :=
  node "return_expression" do
    guard ((← nextWord) == "return")
    leaf (anonymous "return") 6
    attachedName "label"
    trivia
    optional do guard (← continues); expression self

def throwExpression : Parser Unit :=
  node "throw_expression" do
    keyword "throw"
    expression self

def ifExpression : Parser Unit :=
  node "if_expression" do
    keyword "if"
    condition self
    let bare ← do
      if ← nextIs (· == ';') then pure true else wordIn ["else"]
    if bare then pure () else controlBody self
    optional do
      optional (sign ";")
      keyword "else"
      choice [controlBody self, sign ";"]

def whenCondition : Parser Unit :=
  choice
    [node "range_test" do choice [keyword "in", do sign "!"; keyword "in"]; expression self,
     node "type_test" do choice [keyword "is", do sign "!"; keyword "is"]; self .type,
     expression self]

def whenEntry : Parser Unit :=
  node "when_entry" do
    choice
      [keyword "else",
       do commaList1 (whenCondition self); optional (sign ",")]
    sign "->"
    controlBody self
    many (sign ";")

def whenSubject : Parser Unit :=
  node "when_subject" <| parenthesized do
    optional do
      many (self .annotationEntry)
      keyword "val"
      variableDeclaration self
      signUnless "=" ['=']
    expression self

def whenExpression : Parser Unit :=
  node "when_expression" do
    keyword "when"
    optional (whenSubject self)
    braced (itemsOf (whenEntry self))

def catchBlock : Parser Unit :=
  node "catch_block" do
    keyword "catch"
    parenthesized do
      many (self .annotationEntry)
      identifier
      typeClause self
    self .block

def finallyBlock : Parser Unit :=
  node "finally_block" do
    keyword "finally"
    self .block

def tryExpression : Parser Unit :=
  node "try_expression" do
    keyword "try"
    self .block
    many (catchBlock self)
    optional (finallyBlock self)

def callArguments : Parser Unit :=
  node "value_arguments" <| parenthesized <| commaList <| node "value_argument" do
    many (self .annotationEntry)
    optional do identifier; signUnless "=" ['=']
    if ← nextIs (· == '*') then
      node "spread_expression" do sign "*"; expression self
    else expression self

/-- A type that is called to make a value of it. -/
def constructorInvocation : Parser Unit :=
  node "constructor_invocation" do
    userType self
    self .arguments

def explicitDelegation : Parser Unit :=
  node "explicit_delegation" do
    self .type
    keyword "by"
    fun s => within s.breaks false (expression self) s

def delegationSpecifier : Parser Unit :=
  node "delegation_specifier" do
    many (self .annotationEntry)
    choice [explicitDelegation self, constructorInvocation self, self .type]

def delegationSpecifiers : Parser Unit := do
  sign ":"
  node "delegation_specifiers" (commaList1 (delegationSpecifier self))

def objectLiteral : Parser Unit :=
  node "object_literal" do
    keyword "object"
    optional (delegationSpecifiers self)
    self .classBody

/-- A function without a name; one that is written is passed over as an error. -/
def anonymousFunction : Parser Unit :=
  node "anonymous_function" do
    keyword "fun"
    optional (receiver self)
    optional (frame do identifier; reduceAs "ERROR" .plain true)
    functionRest self

def parenthesizedExpression : Parser Unit :=
  node "parenthesized_expression" (parenthesized (expression self))

def collectionLiteral : Parser Unit :=
  node "collection_literal" <| within false true do
    sign "["
    commaList (expression self)
    closing "]"

def freeReference : Parser Unit :=
  node "callable_reference" do
    sign "::"
    choice [keyword "class", identifier]

def wordExpression : Parser Unit :=
  choice
    [thisExpression, superExpression self, returnExpression self, throwExpression self,
     ifExpression self, whenExpression self, tryExpression self,
     objectLiteral self, anonymousFunction self, nameExpression]

def primary : Parser Unit := do
  let next ← nextChar
  match next with
  | some '(' => parenthesizedExpression self
  | some '\x7b' => self .lambda
  | some '[' => collectionLiteral self
  | some '"' => textLiteral self
  | some '\'' => characterLiteral
  | some ':' => freeReference
  | some '\x60' => identifier
  | some c => if Lexis.isWordStart c then wordExpression self else numberLiteral
  | none => mismatch

/-- Words after which an `@` names the place they are about. -/
def placeWords : List String := ["this", "super", "return"]

/-- The label before a statement, expression or lambda: a word and at once an `@`. -/
def label : Parser Unit := do
  guard !(← wordIn placeWords)
  let n ← look fun s => Lexis.identifier s.rest
  guard (n != 0)
  guard ((← look fun s => s.rest.drop n).head? == some '@')
  token (named "label") (n + 1)

def annotatedLambda : Parser Unit := do
  guard (← look State.lambdas)
  node "annotated_lambda" do
    many (self .annotationEntry)
    optional label
    guard (← nextIs (· == '\x7b'))
    self .lambda

/-- The names of a dotted name, if the expression is one. -/
def dottedName? : Concrete → Option (List Concrete)
  | .node head children =>
      if head.kind == "identifier" then some [.node head children]
      else if head.kind == "navigation_expression" then
        match children with
        | [left, dot, last] =>
            if dot.kind == "." then (dottedName? left).map (· ++ [dot, last]) else none
        | _ => none
      else none

/-- Reads a dotted name before a reference as a type. -/
def readAsType : Parser Bool := fun s =>
  match s.nodes with
  | [left] =>
      match dottedName? left with
      | some names =>
          let head : Head := { left.head with kind := "user_type" }
          .done true { s with nodes := [.node head names] }
      | none => .done false s
  | _ => .done false s

def referenceTail : Parser Unit := do
  guard (← startsWith "::")
  let isType ← readAsType
  sign "::"
  choice [keyword "class", identifier]
  reduce (if isType then "callable_reference" else "navigation_expression")

def postfixTail : Parser Unit := do
  guard (← continues)
  choice
    [do choice [sign "++", sign "--", signUnless "!!" ['=']]; reduce "unary_expression",
     do choice [signUnless "." ['.'], sign "?."]; identifier; reduce "navigation_expression",
     referenceTail,
     do self .arguments; reduce "call_expression",
     do annotatedLambda self; reduce "call_expression",
     do
      typeArguments self
      choice [self .arguments, annotatedLambda self]
      reduce "call_expression",
     do
      within false true do sign "["; commaList1 (expression self); optional (sign ","); closing "]"
      reduce "index_expression"]

def postfixExpression : Parser Unit :=
  frame do
    primary self
    many (postfixTail self)

/-- The level of the operands of prefix operators, above that of every binary operator. -/
def prefixLevel : Nat := 12

def prefixSign : Parser Unit :=
  choice [sign "++", sign "--", sign "+", sign "-", sign "!"]

def operand : Parser Unit :=
  choice
    [node "annotated_expression" do self .annotationEntry; expression self,
     node "labeled_expression" do label; expression self,
     node "unary_expression" do prefixSign; self (.expression prefixLevel),
     postfixExpression self]

/-- An operator's sign, and the characters that would make it part of another. -/
structure Operator where
  level : Nat
  kind : String := "binary_expression"
  read : Parser Unit

def operators : List Operator :=
  [⟨1, "binary_expression", sign "||"⟩,
   ⟨2, "binary_expression", sign "&&"⟩,
   ⟨3, "binary_expression", choice [sign "===", sign "!==", sign "==", sign "!="]⟩,
   ⟨4, "binary_expression", choice [sign "<=", sign ">=", sign "<", sign ">"]⟩,
   ⟨5, "in_expression", choice [keyword "in", do sign "!"; keyword "in"]⟩,
   ⟨6, "binary_expression", sign "?:"⟩,
   ⟨8, "range_expression", choice [sign "..<", sign ".."]⟩,
   ⟨9, "binary_expression", choice [signUnless "+" ['+', '='], signUnless "-" ['-', '=', '>']]⟩,
   ⟨10, "binary_expression",
    choice [signUnless "*" ['='], signUnless "/" ['='], signUnless "%" ['=']]⟩]

def operatorTail (level : Nat) (op : Operator) : Parser Unit := do
  guard (level ≤ op.level)
  op.read
  self (.expression (op.level + 1))
  reduce op.kind

/-- Words that do not name an infix function. -/
def noInfixWords : List String := ["in", "is", "as", "else", "while"]

def infixLevel : Nat := 7

def infixTail (level : Nat) : Parser Unit := do
  guard (level ≤ infixLevel)
  guard !(← wordIn noInfixWords)
  identifier
  self (.expression (infixLevel + 1))
  reduce "infix_expression"

def typeTestTail (level : Nat) : Parser Unit := do
  guard (level ≤ 5)
  choice [keyword "is", do sign "!"; keyword "is"]
  self .type
  reduce "is_expression"

def castTail (level : Nat) : Parser Unit := do
  guard (level ≤ 11)
  keyword "as"
  optional (signUnless "?" [':', '.'])
  self .type
  reduce "as_expression"

def binaryTail (level : Nat) : Parser Unit := do
  guard (← continues)
  choice
    (operators.map (operatorTail self level) ++
      [typeTestTail self level, castTail self level, infixTail self level])

def expressionOf (level : Nat) : Parser Unit :=
  frame do
    operand self
    many (binaryTail self level)

end NamingLint.Kotlin.Grammar
