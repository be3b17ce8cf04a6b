import NamingLint.Toml.Lexis

/-!
Numbers, dates and times of TOML. Underscores stand between digits only. Integers are kept if they
fit 64 bits; dates and times are checked and not kept.
-/

namespace NamingLint.Toml

open Toml.Parser

def digit : Parser Char := satisfy Char.isDigit

/-- More digits of a class, each perhaps after an underscore. -/
def moreDigits (one : Parser Char) : Parser (List Char) := do
  many (orElse one (do let _ ← char '_'; must (expecting ["digit"] one)))

def sign : Parser (Option Char) := optional (satisfy fun c => c == '+' || c == '-')

/-- A sign and digits without a leading zero. -/
def decimalInteger : Parser (Bool × List Char) :=
  labelled "integer" do
    let s ← sign
    let digits ← orElse
      (do
        let first ← satisfy fun c => c.isDigit && c != '0'
        pure (first :: (← moreDigits digit)))
      (do pure [← digit])
    pure (s == some '-', digits)

def int64 (negative : Bool) (magnitude : Nat) : Except Cause Int :=
  if negative then
    if magnitude ≤ Nat.pow 2 63 then .ok (-magnitude) else .error .numberTooSmall
  else if magnitude < Nat.pow 2 63 then .ok magnitude else .error .numberTooLarge

def radixInteger (label lead : String) (base : Nat) (isDigit : Char → Bool) : Parser Int :=
  must <| checked
    (labelled label do
      let _ ← literal lead
      must do
        let first ← satisfy isDigit
        pure (first :: (← moreDigits (satisfy isDigit))))
    fun digits => int64 false (ofDigits base digits)

/-- What was read and is refused is refused for good, at the place where it began. -/
def settled {α β : Type} (p : Parser α) (f : α → Except Complaint β) : Parser β := fun c =>
  match p c with
  | .done a next =>
      match f a with
      | .ok b => .done b next
      | .error complaint => .failed true c.offset complaint
  | .failed fatal offset complaint => .failed fatal offset complaint

def integer : Parser Int := fun c =>
  match c.rest with
  | '0' :: 'x' :: _ => radixInteger "hexadecimal integer" "0x" 16 isHexDigit c
  | '0' :: 'o' :: _ => radixInteger "octal integer" "0o" 8 (fun d => '0' ≤ d && d ≤ '7') c
  | '0' :: 'b' :: _ => radixInteger "binary integer" "0b" 2 (fun d => d == '0' || d == '1') c
  | _ =>
      settled decimalInteger
        (fun (negative, digits) =>
          (int64 negative (ofDigits 10 digits)).mapError fun cause => { cause := some cause }) c

/-- Digits that may begin with zeros. -/
def anyDigits : Parser (List Char) := do
  let first ← digit
  pure (first :: (← moreDigits digit))

def fraction : Parser (List Char) := do
  let _ ← char '.'
  must (expecting ["digit"] anyDigits)

def exponent : Parser Int := do
  let _ ← satisfy fun c => c == 'e' || c == 'E'
  let s ← sign
  let digits := ofDigits 10 (← must anyDigits)
  pure (if s == some '-' then -(digits : Int) else digits)

/-- A float is a decimal integer with an exponent, a fraction or both. Only the positive infinity is
refused as the value of digits. -/
def digitFloat : Parser Decimal.Binary64 :=
  settled
    (do
      let whole ← decimalInteger
      let (frac, power) ← orElse (do pure ([], ← exponent))
        (do
          let frac ← fraction
          pure (frac, (← optional exponent).getD 0))
      pure (whole, frac, power))
    fun ((negative, digits), frac, power) =>
      match Decimal.ofDecimal negative (ofDigits 10 (digits ++ frac)) (power - frac.length) with
      | .infinite false => .error {}
      | value => .ok value

def specialFloat : Parser Decimal.Binary64 := do
  let s ← sign
  orElse (do let _ ← literal "inf"; pure (.infinite (s == some '-')))
    (do let _ ← literal "nan"; pure .notANumber)

def float : Parser Decimal.Binary64 :=
  labelled "floating-point number" (orElse digitFloat specialFloat)

/-- A number of `n` digits in a range. -/
def field (n least greatest : Nat) : Parser Nat :=
  checked (exactly n Char.isDigit) fun digits =>
    let value := ofDigits 10 digits
    if least ≤ value && value ≤ greatest then .ok value else .error .outOfRange

def daysInMonth (year month : Nat) : Nat :=
  if month = 2 then
    if year % 4 = 0 && (year % 100 != 0 || year % 400 = 0) then 29 else 28
  else if [4, 6, 9, 11].contains month then 30
  else 31

def fullDate : Parser Unit := do
  let year ← field 4 0 9999
  let _ ← char '-'
  let month ← must (field 2 1 12)
  let _ ← must (char '-')
  let _ ← must <| checked (field 2 1 31) fun day =>
    if day ≤ daysInMonth year month then .ok day else .error .outOfRange

def timeOfDay : Parser Unit := do
  let _ ← field 2 0 23
  let _ ← char ':'
  must do
    let _ ← field 2 0 59
    let _ ← char ':'
    let _ ← field 2 0 60
    let _ ← optional do let _ ← char '.'; takeWhile1 Char.isDigit

def timeOffset : Parser Unit :=
  labelled "time offset" <| orElse (do let _ ← satisfy fun c => c == 'Z' || c == 'z') do
    let _ ← satisfy fun c => c == '+' || c == '-'
    must do
      let _ ← field 2 0 23
      let _ ← char ':'
      let _ ← field 2 0 59

def dateTime : Parser Unit :=
  orElse
    (labelled "date-time" do
      fullDate
      let _ ← optional do
        let _ ← satisfy fun c => c == 'T' || c == 't' || c == ' '
        timeOfDay
        optional timeOffset)
    (labelled "time" timeOfDay)

end NamingLint.Toml
