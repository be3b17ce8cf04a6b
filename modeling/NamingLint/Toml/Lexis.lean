import NamingLint.Toml.Parser

/-!
Blanks, line ends, comments and strings of TOML. A line end is a line feed, with a carriage return
before it or not, and reads as a line feed. Controls other than the tab stand nowhere.
-/

namespace NamingLint.Toml

open Toml.Parser

def isBlank (c : Char) : Bool := c == ' ' || c == '\t'

/-- What a comment or literal string may hold. -/
def isPlain (c : Char) : Bool := c == '\t' || (' ' ≤ c && c != '\x7f')

def blanks : Parser Unit := do let _ ← takeWhile isBlank

def newline : Parser Char :=
  orElse (char '\n') (do let _ ← char '\r'; char '\n')

def lineEnd : Parser Unit :=
  orElse (do let _ ← newline) atEnd

def comment : Parser Unit := do
  let _ ← char '#'
  let _ ← takeWhile isPlain

/-- Blanks and perhaps a comment up to the end of the line. -/
def lineTrailing : Parser Unit :=
  expecting ["newline", "\x60#\x60"] do
    blanks
    let _ ← optional comment
    lineEnd

/-- One step over a blank line end or comment line inside an array. -/
def layoutStep : Parser Bool := do
  blanks
  let next ← peek
  match next with
  | some '#' => do comment; let _ ← newline; pure true
  | some '\n' | some '\r' => do let _ ← newline; pure true
  | _ => pure false

def layoutWithin : Nat → Parser Unit
  | 0 => pure ()
  | n + 1 => do if ← layoutStep then layoutWithin n else pure ()

/-- Blanks, line ends and comments; a comment needs a line end after it. -/
def layout : Parser Unit := fun c => layoutWithin (c.rest.length + 1) c

def isHexDigit (c : Char) : Bool :=
  c.isDigit || ('a' ≤ c && c ≤ 'f') || ('A' ≤ c && c ≤ 'F')

def digitValue (c : Char) : Nat :=
  if c.isDigit then c.toNat - '0'.toNat
  else if 'a' ≤ c then c.toNat - 'a'.toNat + 10
  else c.toNat - 'A'.toNat + 10

def ofDigits (base : Nat) (digits : List Char) : Nat :=
  digits.foldl (fun n c => n * base + digitValue c) 0

def scalarValue (n : Nat) : Except Cause Char :=
  if n.isValidChar then .ok (Char.ofNat n) else .error .outOfRange

def hexEscape (n : Nat) : Parser Char :=
  labelled ("unicode " ++ toString n ++ "-digit hex code") <| must <|
    checked (exactly n isHexDigit) fun digits => scalarValue (ofDigits 16 digits)

def shortEscapes : List (Char × Char) :=
  [('b', '\x08'), ('f', '\x0c'), ('n', '\n'), ('r', '\r'), ('t', '\t'), ('\\', '\\'), ('"', '"')]

/-- What follows a backslash. -/
def escape : Parser Char := do
  let _ ← char '\\'
  let letter ← satisfy fun _ => true
  if letter == 'u' then hexEscape 4
  else if letter == 'U' then hexEscape 8
  else match shortEscapes.lookup letter with
    | some c => pure c
    | none =>
        must <| fail
          { label := some "escape sequence"
            expected := ["b", "f", "n", "r", "t", "u", "U", "\\", "\""].map fun c =>
              "\x60" ++ c ++ "\x60" }

def isBasicPlain (c : Char) : Bool := isPlain c && c != '"' && c != '\\'

def basicPart : Parser (List Char) :=
  orElse (takeWhile1 isBasicPlain) (do pure [← escape])

def basicString : Parser (List Char) := do
  let _ ← char '"'
  let parts ← many basicPart
  let _ ← labelled "basic string" (must (char '"'))
  pure parts.flatten

/-- A backslash at the end of a line, with all blanks and line ends after it. -/
def joinedLines : Parser Unit := do
  let _ ← char '\\'
  blanks
  let _ ← newline
  let _ ← takeBreaks
where
  takeBreaks : Parser (List Unit) :=
    many (orElse (do let _ ← takeWhile1 isBlank) (do let _ ← newline))

def multilineBasicPart : Parser (List Char) :=
  orElse (takeWhile1 isBasicPlain) <|
    orElse (do joinedLines; pure []) <|
      orElse (do pure [← escape]) (do pure [← newline])

/-- One or two quotes before something, two if they can be. -/
def innerQuotes (quote : Char) (before : Parser Unit) : Parser (List Char) :=
  orElse
    (do let a ← char quote; let b ← char quote; ahead before; pure [a, b])
    (do let a ← char quote; ahead before; pure [a])

/-- Parts with lone quotes among them, up to three quotes; up to two more belong to the text. -/
def multilineBody (delimiter : String) (quote : Char) (part : Parser (List Char)) :
    Parser (List Char) := do
  let _ ← optional newline
  let first ← many part
  let inner ← many do
    let quotes ← innerQuotes quote (do let _ ← part)
    let parts ← many part
    pure (quotes ++ parts.flatten)
  let last ← optional (innerQuotes quote (do let _ ← literal delimiter))
  pure (first.flatten ++ inner.flatten ++ last.getD [])

def multilineBasicString : Parser (List Char) :=
  labelled "multiline basic string" do
    let _ ← literal "\"\"\""
    let text ← must (multilineBody "\"\"\"" '"' multilineBasicPart)
    let _ ← must (literal "\"\"\"")
    pure text

def isLiteralPlain (c : Char) : Bool := isPlain c && c != '\''

def literalString : Parser (List Char) :=
  labelled "literal string" do
    let _ ← char '\''
    let text ← takeWhile isLiteralPlain
    let _ ← must (char '\'')
    pure text

def multilineLiteralPart : Parser (List Char) :=
  orElse (takeWhile1 isLiteralPlain) (do pure [← newline])

def multilineLiteralString : Parser (List Char) :=
  labelled "multiline literal string" do
    let _ ← literal "'''"
    let text ← must (multilineBody "'''" '\'' multilineLiteralPart)
    let _ ← must (literal "'''")
    pure text

def string : Parser (List Char) :=
  orElse multilineBasicString <| orElse basicString <|
    orElse multilineLiteralString literalString

end NamingLint.Toml
