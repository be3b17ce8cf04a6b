import NamingLint.Text.Letter
import NamingLint.Text.Slice

/-!
The lexical forms of Kotlin, each as the number of characters that it takes at the beginning of a
text; zero where the text begins with none. Comments nest; a backtick identifier holds at least
one character and ends on its line.
-/

namespace NamingLint.Kotlin.Lexis

def isBlank (c : Char) : Bool :=
  c == ' ' || ('\t' ≤ c && c ≤ '\r')

def isWordStart (c : Char) : Bool :=
  c == '_' || Text.isLetter c

def isWordPart (c : Char) : Bool :=
  isWordStart c || Text.isDecimalDigit c

/-- The word that the text begins with; empty if there is none. -/
def word (text : List Char) : List Char :=
  match text with
  | c :: _ => if isWordStart c then text.takeWhile isWordPart else []
  | [] => []

def backtick : List Char → Nat
  | '\x60' :: rest =>
      let inner := rest.takeWhile fun c => c != '\x60' && c != '\n' && c != '\r'
      if inner.isEmpty then 0
      else match rest.drop inner.length with
        | '\x60' :: _ => inner.length + 2
        | _ => 0
  | _ => 0

def identifier (text : List Char) : Nat :=
  match backtick text with
  | 0 => (word text).length
  | n => n

def lineComment : List Char → Nat
  | '/' :: '/' :: rest => (rest.takeWhile (· != '\n')).length + 2
  | _ => 0

/-- What is left of a block comment inside `depth` openings; a comment that never ends takes all. -/
def blockCommentRest : Nat → List Char → Nat
  | 0, _ => 0
  | _, [] => 0
  | depth, '/' :: '*' :: rest => blockCommentRest (depth + 1) rest + 2
  | depth + 1, '*' :: '/' :: rest => blockCommentRest depth rest + 2
  | depth, _ :: rest => blockCommentRest depth rest + 1

def blockComment : List Char → Nat
  | '/' :: '*' :: rest => blockCommentRest 1 rest + 2
  | _ => 0

def isDigitOr (extra : Char → Bool) (c : Char) : Bool :=
  c.isDigit || c == '_' || extra c

def isHexDigit (c : Char) : Bool :=
  ('a' ≤ c && c ≤ 'f') || ('A' ≤ c && c ≤ 'F')

def spanLength (p : Char → Bool) (text : List Char) : Nat :=
  (text.takeWhile p).length

def longSuffix : List Char → Nat
  | 'u' :: 'L' :: _ | 'U' :: 'L' :: _ => 2
  | 'u' :: _ | 'U' :: _ | 'L' :: _ => 1
  | _ => 0

def exponent (text : List Char) : Nat :=
  match text with
  | 'e' :: rest | 'E' :: rest =>
      let sign := match rest with
        | '+' :: _ | '-' :: _ => 1
        | _ => 0
      let digits := spanLength (isDigitOr fun _ => false) (rest.drop sign)
      if digits = 0 then 0 else 1 + sign + digits
  | _ => 0

def fraction (text : List Char) : Nat :=
  match text with
  | '.' :: c :: rest => if c.isDigit then spanLength (isDigitOr fun _ => false) rest + 2 else 0
  | _ => 0

def floatSuffix : List Char → Nat
  | 'f' :: _ | 'F' :: _ => 1
  | _ => 0

inductive NumberForm where
  | integer
  | float
  deriving Repr, DecidableEq

/-- The form and length of a number, with its suffix. -/
def number? (text : List Char) : Option (NumberForm × Nat) :=
  let radix (digits : Nat) : Option (NumberForm × Nat) :=
    if digits = 0 then none
    else some (.integer, digits + 2 + longSuffix (text.drop (digits + 2)))
  let decimal : Option (NumberForm × Nat) :=
    let whole := match text with
      | c :: rest => if c.isDigit then spanLength (isDigitOr fun _ => false) rest + 1 else 0
      | [] => 0
    let point := fraction (text.drop whole)
    let power := if whole + point = 0 then 0 else exponent (text.drop (whole + point))
    let mantissa := whole + point + power
    let suffix := floatSuffix (text.drop mantissa)
    if mantissa = 0 then none
    else if point + power + suffix > 0 then some (.float, mantissa + suffix)
    else some (.integer, whole + longSuffix (text.drop whole))
  match text with
  | '0' :: 'x' :: rest | '0' :: 'X' :: rest => (radix (spanLength (isDigitOr isHexDigit) rest)).or decimal
  | '0' :: 'b' :: rest | '0' :: 'B' :: rest =>
      (radix (spanLength (fun c => c == '0' || c == '1' || c == '_') rest)).or decimal
  | _ => decimal

/-- An escape in a text or character literal: a letter or sign, or `u` and four digits. -/
def escape : List Char → Nat
  | '\\' :: 'u' :: a :: b :: c :: d :: _ =>
      if [a, b, c, d].all fun x => x.isDigit || isHexDigit x then 6 else 0
  | '\\' :: c :: _ => if "tbrn'\"\\$".toList.contains c then 2 else 0
  | _ => 0

/-- A first line that names an interpreter, without its end. -/
def shebang : List Char → Nat
  | '#' :: '!' :: rest => (rest.takeWhile fun c => c != '\n' && c != '\r').length + 2
  | _ => 0

end NamingLint.Kotlin.Lexis
