import NamingLint.Kotlin.Parser

/-!
The parts of the grammar that call each other in a circle. Every production is written over a
parser for these, so the circle is closed in one place, with a bound on its depth.
-/

namespace NamingLint.Kotlin

inductive Nonterminal where
  | type
  | annotationEntry
  | arguments
  | lambda
  | block
  | classBody
  | companionBody
  | enumBody
  | statement
  /-- An expression whose operators bind at least as tightly as the level says. -/
  | expression (level : Nat)
  deriving Repr, DecidableEq

abbrev Productions := Nonterminal → Parser Unit

namespace Parser

/-- A sign that is not part of a longer one. -/
def signUnless (text : String) (followers : List Char) : Parser Unit := do
  let next ← look fun s => s.rest.drop text.length
  guard (!next.head?.any followers.contains)
  sign text

/-- Whether what comes next can belong to the statement at work. The end of a line ends a statement
unless the next line begins with a sign that can only carry on. -/
def continuesLine (text : List Char) : Bool :=
  match text with
  | [] => false
  | '+' :: c :: _ => c != '+' && !c.isDigit
  | '-' :: c :: _ => c != '-' && !c.isDigit
  | '!' :: c :: _ => c == '='
  | c :: _ => ",.:*%><=\x7b[(?|&/".toList.contains c || Lexis.word text == "in".toList

def continues : Parser Bool :=
  look fun s => !s.breaks || !s.broke || continuesLine s.rest

def parenthesized (p : Parser Unit) : Parser Unit :=
  within false true do sign "("; p; closing ")"

def braced (p : Parser Unit) : Parser Unit :=
  within true true do sign "\x7b"; p; closing "\x7d"

/-- One word, number or other character that could not be read. -/
def errorToken : Parser Unit := do
  let length ← look fun s =>
    match Lexis.identifier s.rest, Lexis.number? s.rest with
    | 0, some (_, n) => n
    | 0, none => min s.rest.length 1
    | n, _ => n
  guard (length != 0)
  frame do
    token (anonymous "") length
    reduceAs "ERROR" .plain true

/-- Items up to a closing brace; what is no item is passed over as an error. -/
def itemsOf (item : Parser Unit) : Parser Unit :=
  many do
    guard !(← nextIs (· == '\x7d'))
    choice [sign ";", item, errorToken]

end Parser
end NamingLint.Kotlin
