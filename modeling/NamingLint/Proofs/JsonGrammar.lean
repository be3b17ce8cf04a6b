import Mathlib.Algebra.Field.Rat
import NamingLint.Report.Json

/-!
JSON texts by the rules of the standard, with what they denote, and a decoder for all of them. A
number denotes a rational. A string is made of Unicode characters, so an escaped surrogate is one
half of a pair. The members of an object stay in order, and a name may be there twice.
-/

namespace NamingLint.Json

inductive Datum where
  | null
  | bool (b : Bool)
  | number (q : ℚ)
  | text (s : String)
  | array (elements : List Datum)
  | object (members : List (String × Datum))

def isBlank (c : Char) : Bool :=
  c = ' ' || c = '\t' || c = '\n' || c = '\r'

/-- White space, perhaps none. -/
def Blank (text : List Char) : Prop :=
  ∀ c ∈ text, isBlank c = true

instance (text : List Char) : Decidable (Blank text) :=
  List.decidableBAll (isBlank · = true) text

def Digits (text : List Char) : Prop :=
  ∀ c ∈ text, c.isDigit = true

structure Exponent where
  mark : Char
  sign : Option Char
  digits : List Char

structure Exponent.Valid (e : Exponent) : Prop where
  mark : e.mark = 'e' ∨ e.mark = 'E'
  sign : ∀ c ∈ e.sign, c = '+' ∨ c = '-'
  nonempty : e.digits ≠ []
  digits : Digits e.digits

/-- A number as it is written; it has no fraction when there are no digits for one. -/
structure Numeral where
  negative : Bool
  whole : List Char
  fraction : List Char
  exponent : Option Exponent

namespace Numeral

structure Valid (n : Numeral) : Prop where
  nonempty : n.whole ≠ []
  whole : Digits n.whole
  noLeadingZero : n.whole.head? = some '0' → n.whole = ['0']
  fraction : Digits n.fraction
  exponent : ∀ e ∈ n.exponent, e.Valid

def fractionText (digits : List Char) : List Char :=
  if digits = [] then [] else '.' :: digits

def exponentText : Option Exponent → List Char
  | none => []
  | some e => e.mark :: (e.sign.toList ++ e.digits)

def text (n : Numeral) : List Char :=
  (if n.negative then ['-'] else []) ++
    (n.whole ++ (fractionText n.fraction ++ exponentText n.exponent))

def value (n : Numeral) : ℚ :=
  let digits : ℚ := (Nat.ofDigitChars 10 (n.whole ++ n.fraction) 0 : ℕ)
  let mantissa : ℚ := digits / 10 ^ n.fraction.length
  let signed : ℚ := if n.negative then -mantissa else mantissa
  match n.exponent with
  | none => signed
  | some e =>
      if e.sign = some '-' then signed / 10 ^ Nat.ofDigitChars 10 e.digits 0
      else signed * 10 ^ Nat.ofDigitChars 10 e.digits 0

end Numeral

def hexValue? (c : Char) : Option Nat :=
  if c.isDigit then some (c.toNat - '0'.toNat)
  else if 'a' ≤ c ∧ c ≤ 'f' then some (c.toNat - 'a'.toNat + 10)
  else if 'A' ≤ c ∧ c ≤ 'F' then some (c.toNat - 'A'.toNat + 10)
  else none

/-- Four hexadecimal digits and the number that they write. -/
inductive HexUnit : List Char → Nat → Prop where
  | digits {a b c d : Char} {x y z w : Nat} (ha : hexValue? a = some x) (hb : hexValue? b = some y)
      (hc : hexValue? c = some z) (hd : hexValue? d = some w) :
      HexUnit [a, b, c, d] (((x * 16 + y) * 16 + z) * 16 + w)

def isHigh (n : Nat) : Bool := 0xD800 ≤ n && n < 0xDC00

def isLow (n : Nat) : Bool := 0xDC00 ≤ n && n < 0xE000

/-- The character of a pair of surrogates. -/
def combine (high low : Nat) : Char :=
  Char.ofNat (0x10000 + (high - 0xD800) * 0x400 + (low - 0xDC00))

/-- What stands after a backslash, and the character that is meant. -/
def letterEscapes : List (Char × Char) :=
  [('"', '"'), ('\\', '\\'), ('/', '/'), ('b', '\x08'), ('f', '\x0c'), ('n', '\n'), ('r', '\r'),
   ('t', '\t')]

/-- The ways to write a character of a string. -/
inductive Spells : List Char → Char → Prop where
  | plain {c : Char} (hquote : c ≠ '"') (hbackslash : c ≠ '\\') (hcontrol : 0x20 ≤ c.toNat) :
      Spells [c] c
  | letter {e c : Char} (h : (e, c) ∈ letterEscapes) : Spells ['\\', e] c
  | unit {digits : List Char} {n : Nat} (h : HexUnit digits n) (hhigh : isHigh n = false)
      (hlow : isLow n = false) : Spells ('\\' :: 'u' :: digits) (Char.ofNat n)
  | pair {first second : List Char} {high low : Nat} (hfirst : HexUnit first high)
      (hsecond : HexUnit second low) (hhigh : isHigh high = true) (hlow : isLow low = true) :
      Spells ('\\' :: 'u' :: (first ++ '\\' :: 'u' :: second)) (combine high low)

inductive SpellsAll : List Char → List Char → Prop where
  | nil : SpellsAll [] []
  | cons {a b : List Char} {c : Char} {s : List Char} (first : Spells a c) (rest : SpellsAll b s) :
      SpellsAll (a ++ b) (c :: s)

/-- The parts of a text: a value, a value between blanks, a name with its value, and values or
members that commas part. -/
inductive Phrase where
  | value (d : Datum)
  | item (d : Datum)
  | member (m : String × Datum)
  | items (ds : List Datum)
  | members (ms : List (String × Datum))

inductive Written : Phrase → List Char → Prop where
  | null : Written (.value .null) ['n', 'u', 'l', 'l']
  | true : Written (.value (.bool true)) ['t', 'r', 'u', 'e']
  | false : Written (.value (.bool false)) ['f', 'a', 'l', 's', 'e']
  | number {n : Numeral} (h : n.Valid) : Written (.value (.number n.value)) n.text
  | text {body : List Char} {s : String} (h : SpellsAll body s.toList) :
      Written (.value (.text s)) ('"' :: (body ++ ['"']))
  | emptyArray {blank : List Char} (h : Blank blank) :
      Written (.value (.array [])) ('[' :: (blank ++ [']']))
  | array {body : List Char} {ds : List Datum} (h : Written (.items ds) body) :
      Written (.value (.array ds)) ('[' :: (body ++ [']']))
  | emptyObject {blank : List Char} (h : Blank blank) :
      Written (.value (.object [])) ('\x7b' :: (blank ++ ['\x7d']))
  | object {body : List Char} {ms : List (String × Datum)} (h : Written (.members ms) body) :
      Written (.value (.object ms)) ('\x7b' :: (body ++ ['\x7d']))
  | item {before text after : List Char} {d : Datum} (hbefore : Blank before)
      (h : Written (.value d) text) (hafter : Blank after) :
      Written (.item d) (before ++ (text ++ after))
  | member {before name gap text : List Char} {s : String} {d : Datum} (hbefore : Blank before)
      (hname : SpellsAll name s.toList) (hgap : Blank gap) (h : Written (.item d) text) :
      Written (.member (s, d)) (before ++ '"' :: (name ++ '"' :: (gap ++ ':' :: text)))
  | lastItem {text : List Char} {d : Datum} (h : Written (.item d) text) :
      Written (.items [d]) text
  | moreItems {text rest : List Char} {d : Datum} {ds : List Datum} (h : Written (.item d) text)
      (hrest : Written (.items ds) rest) : Written (.items (d :: ds)) (text ++ ',' :: rest)
  | lastMember {text : List Char} {m : String × Datum} (h : Written (.member m) text) :
      Written (.members [m]) text
  | moreMembers {text rest : List Char} {m : String × Datum} {ms : List (String × Datum)}
      (h : Written (.member m) text) (hrest : Written (.members ms) rest) :
      Written (.members (m :: ms)) (text ++ ',' :: rest)

namespace Decoder

/-- What a part of a text denotes, and the text after it. -/
abbrev Reader (α : Type) := List Char → Option (α × List Char)

def skip (input : List Char) : List Char :=
  input.dropWhile isBlank

/-- At least one digit, and all that follow. -/
def digits : Reader (List Char) := fun input =>
  if input.takeWhile Char.isDigit = [] then none
  else some (input.takeWhile Char.isDigit, input.dropWhile Char.isDigit)

def whole : Reader (List Char)
  | [] => none
  | c :: rest => if c = '0' then some (['0'], rest) else digits (c :: rest)

def fraction : Reader (List Char)
  | [] => some ([], [])
  | c :: rest => if c = '.' then digits rest else some ([], c :: rest)

def sign : List Char → Option Char × List Char
  | [] => (none, [])
  | c :: rest => if c = '+' ∨ c = '-' then (some c, rest) else (none, c :: rest)

def exponent : Reader (Option Exponent)
  | [] => some (none, [])
  | c :: rest =>
      if c = 'e' ∨ c = 'E' then do
        let (ds, after) ← digits (sign rest).2
        return (some { mark := c, sign := (sign rest).1, digits := ds }, after)
      else some (none, c :: rest)

def minus : List Char → Bool × List Char
  | [] => (false, [])
  | c :: rest => if c = '-' then (true, rest) else (false, c :: rest)

def numeral : Reader Numeral := fun input => do
  let (whole, rest) ← whole (minus input).2
  let (fraction, rest) ← fraction rest
  let (exponent, rest) ← exponent rest
  return ({ negative := (minus input).1, whole, fraction, exponent }, rest)

def unit : Reader Nat
  | a :: b :: c :: d :: rest => do
      let x ← hexValue? a
      let y ← hexValue? b
      let z ← hexValue? c
      let w ← hexValue? d
      return (((x * 16 + y) * 16 + z) * 16 + w, rest)
  | _ => none

/-- The second half of a pair of surrogates. -/
def secondHalf (high : Nat) : Reader Char
  | '\\' :: 'u' :: rest => do
      let (low, rest) ← unit rest
      if isLow low then some (combine high low, rest) else none
  | _ => none

def unicode : Reader Char := fun input => do
  let (n, rest) ← unit input
  if isHigh n then secondHalf n rest
  else if isLow n then none
  else some (Char.ofNat n, rest)

def escaped : Reader Char
  | [] => none
  | e :: rest => if e = 'u' then unicode rest else (letterEscapes.lookup e).map (·, rest)

def character : Reader Char
  | [] => none
  | c :: rest =>
      if c = '\\' then escaped rest
      else if c = '"' ∨ c.toNat < 0x20 then none
      else some (c, rest)

/-- Characters up to a quote, which is taken too. -/
def characters : Nat → Reader (List Char)
  | 0, _ => none
  | n + 1, input =>
      if input.head? = some '"' then some ([], input.tail)
      else do
        let (c, rest) ← character input
        let (s, rest) ← characters n rest
        return (c :: s, rest)

/-- A string after its first quote. -/
def string : Reader String := fun input => do
  let (s, rest) ← characters input.length input
  return (String.ofList s, rest)

def keywords : List (List Char × Datum) :=
  [(['n', 'u', 'l', 'l'], .null), (['t', 'r', 'u', 'e'], .bool true),
   (['f', 'a', 'l', 's', 'e'], .bool false)]

def keyword : Reader Datum := fun input =>
  keywords.findSome? fun (word, d) => (word.isPrefixOf? input).map (d, ·)

def item (value : Reader Datum) : Reader Datum := fun input => do
  let (d, rest) ← value (skip input)
  return (d, skip rest)

/-- A given character and the text after it. -/
def expect (c : Char) (input : List Char) : Option (List Char) :=
  if input.head? = some c then some input.tail else none

def member (value : Reader Datum) : Reader (String × Datum) := fun input => do
  let rest ← expect '"' (skip input)
  let (s, rest) ← string rest
  let rest ← expect ':' (skip rest)
  let (d, rest) ← item value rest
  return ((s, d), rest)

/-- One or more, with commas between them, up to a closing character, which is taken too. -/
def separated {α : Type} (read : Reader α) (close : Char) : Nat → Reader (List α)
  | 0, _ => none
  | n + 1, input => do
      let (x, rest) ← read input
      if rest.head? = some ',' then do
        let (xs, rest) ← separated read close n rest.tail
        return (x :: xs, rest)
      else do
        let rest ← expect close rest
        return ([x], rest)

/-- Between brackets, of which the first is taken. -/
def bracketed {α : Type} (read : Reader α) (close : Char) (n : Nat) : Reader (List α) :=
  fun input =>
    if (skip input).head? = some close then some ([], (skip input).tail)
    else separated read close n input

/-- The bound counts the brackets that may be open and what may stand between two of them. -/
def value : Nat → Reader Datum
  | 0, _ => none
  | n + 1, input =>
      match input with
      | [] => none
      | c :: rest =>
          if c = '"' then do
            let (s, rest) ← string rest
            return (.text s, rest)
          else if c = '[' then do
            let (ds, rest) ← bracketed (item (value n)) ']' n rest
            return (.array ds, rest)
          else if c = '\x7b' then do
            let (ms, rest) ← bracketed (member (value n)) '\x7d' n rest
            return (.object ms, rest)
          else match keyword (c :: rest) with
            | some found => some found
            | none => do
                let (n, rest) ← numeral (c :: rest)
                return (.number n.value, rest)

end Decoder

/-- What a whole text denotes. -/
def decode (text : List Char) : Option Datum := do
  let (d, rest) ← Decoder.item (Decoder.value text.length) text
  if rest = [] then some d else none

end NamingLint.Json
