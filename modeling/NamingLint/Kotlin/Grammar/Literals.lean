import NamingLint.Kotlin.Grammar.Nonterminal

/-!
Literals: numbers, characters and the two kinds of texts. A text is a row of contents, escapes and
embedded expressions; a dollar sign before a name embeds the name in a text of several lines only.
-/

namespace NamingLint.Kotlin.Grammar

open Kotlin.Parser

variable (self : Productions)

def numberLiteral : Parser Unit := do
  let form ← look fun s => Lexis.number? s.rest
  match form with
  | some (.integer, n) => token (named "number_literal") n
  | some (.float, n) => token (named "float_literal") n
  | none => mismatch

def escapeSequence : Parser Unit := do
  let n ← look fun s => Lexis.escape s.rest
  guard (n != 0)
  leaf (named "escape_sequence") n

def delimiter (text : String) : Parser Unit := do
  guard (← startsWith text)
  leaf (anonymous text) text.length

def characterLiteral : Parser Unit :=
  node "character_literal" do
    delimiter "'"
    choice [escapeSequence, do
      guard (← nextIs fun c => c != '\'' && c != '\n' && c != '\\')
      skip 1]
    delimiter "'"
    trivia

def embeddedExpression : Parser Unit :=
  node "interpolation" do
    guard (← startsWith "$\x7b")
    token (anonymous "$\x7b") 2
    within false true (self (.expression 1))
    (fun s => if s.rest.isEmpty then .unclosed s else delimiter "\x7d" s)

def embeddedName : Parser Unit :=
  node "interpolation" do
    delimiter "$"
    let n ← look fun s => Lexis.identifier s.rest
    guard (n != 0)
    leaf (named "identifier") n

def content (length : Nat) : Parser Unit := do
  guard (length != 0)
  leaf (named "string_content") length

/-- The characters of a text on one line up to a quote, an escape, a dollar sign or the line's end. -/
def lineContentLength (text : List Char) : Nat :=
  Lexis.spanLength (fun c => c != '"' && c != '\\' && c != '$' && c != '\n') text

def lineText : Parser Unit :=
  node "string_literal" do
    delimiter "\""
    many <| choice
      [escapeSequence, embeddedExpression self,
       do guard (← nextIs (· == '$')); content 1,
       do content (← look fun s => lineContentLength s.rest)]
    delimiter "\""
    trivia

/-- The characters of a text of several lines up to an embedding or to its last three quotes. -/
def blockContentLength : List Char → Nat
  | [] => 0
  | '$' :: c :: rest =>
      if c == '\x7b' || c == '\x60' || Lexis.isWordStart c then 0
      else blockContentLength (c :: rest) + 1
  | '"' :: rest =>
      if rest.take 2 == ['"', '"'] && rest[2]? != some '"' then 0
      else blockContentLength rest + 1
  | _ :: rest => blockContentLength rest + 1

def blockText : Parser Unit :=
  node "multiline_string_literal" do
    delimiter "\"\"\""
    many <| choice
      [embeddedExpression self, embeddedName,
       do content (← look fun s => blockContentLength s.rest)]
    delimiter "\"\"\""
    trivia

def textLiteral : Parser Unit := do
  if ← startsWith "\"\"\"" then blockText self else lineText self

end NamingLint.Kotlin.Grammar
