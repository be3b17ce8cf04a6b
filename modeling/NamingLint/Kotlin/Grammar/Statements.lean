import NamingLint.Kotlin.Grammar.Classes

/-!
Statements: declarations, loops, assignments and expressions.

An annotation with arguments before a declaration word on its line can also be read as an
annotation without arguments before an infix expression, with the arguments as its left operand and
the word as its operator. Where both readings end at the same place the expression is taken.
-/

namespace NamingLint.Kotlin.Grammar

open Kotlin.Parser

variable (self : Productions)

def forStatement : Parser Unit :=
  node "for_statement" do
    keyword "for"
    parenthesized do
      many (self .annotationEntry)
      boundVariables self
      keyword "in"
      expression self
    choice [sign ";", controlBody self]

def whileStatement : Parser Unit :=
  node "while_statement" do
    keyword "while"
    condition self
    choice [sign ";", controlBody self]

def doWhileStatement : Parser Unit :=
  node "do_while_statement" do
    keyword "do"
    if ← wordIn ["while"] then pure () else controlBody self
    keyword "while"
    condition self

def loopStatement : Parser Unit :=
  choice [forStatement self, whileStatement self, doWhileStatement self]

def labeledLoop : Parser Unit :=
  node "labeled_expression" do label; loopStatement self

def assignmentSign : Parser Unit :=
  choice
    [signUnless "=" ['='], sign "+=", sign "-=", sign "*=", sign "/=", sign "%="]

/-- An expression, assigned to if an assignment sign follows. -/
def assignmentOrExpression : Parser Unit :=
  frame do
    expression self
    optional do
      guard (← continues)
      assignmentSign
      expression self
      reduce "assignment"

def declarationWords : List String :=
  ["fun", "class", "interface", "val", "var", "object", "typealias"]

def infixOnArguments : Parser Unit :=
  frame do
    parenthesizedExpression self
    guard !(← look State.broke)
    guard (← wordIn declarationWords)
    identifier
    self (.expression (infixLevel + 1))
    reduce "infix_expression"

def bareAnnotation : Parser Unit := do
  node "annotation" do atSign; userType self
  guard !(← look State.broke)

def annotatedInfixWithin : Nat → Parser Unit
  | 0 => mismatch
  | n + 1 =>
      node "annotated_expression" <| choice
        [do bareAnnotation self; infixOnArguments self,
         do self .annotationEntry; annotatedInfixWithin n]

def annotatedDeclaration : Parser Unit := fun s =>
  match declaration self s with
  | .done _ declared =>
      match annotatedInfixWithin self s.size s with
      | .done _ expressed => .done () (if expressed.offset = declared.offset then expressed else declared)
      | .mismatch | .unclosed _ => .done () declared
  | outcome => outcome

def statement : Parser Unit := do
  if ← nextIs (· == '@') then
    choice [annotatedDeclaration self, assignmentOrExpression self]
  else
    choice
      [declaration self, loopStatement self, labeledLoop self, assignmentOrExpression self]

def production : Productions
  | .type => typeExpression self
  | .annotationEntry => annotationEntry self
  | .arguments => callArguments self
  | .lambda => lambda self
  | .block => block self
  | .classBody => classBody self
  | .companionBody => companionBody self
  | .enumBody => enumBody self
  | .statement => statement self
  | .expression level => expressionOf self level

end NamingLint.Kotlin.Grammar

namespace NamingLint.Kotlin

/-- The grammar up to a depth of mutual calls. -/
def grammar : Nat → Productions
  | 0, _ => Parser.mismatch
  | depth + 1, nonterminal => Grammar.production (grammar depth) nonterminal

end NamingLint.Kotlin
