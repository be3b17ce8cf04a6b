import NamingLint.Decimal.Binary64

/-!
The shortest decimal that is nearest to a given binary number and to no other. Of the decimals with
the fewest digits the one closest to the number is taken. Text is positional, with at least one
digit after the point.
-/

namespace NamingLint.Decimal

/-- A positive fraction. -/
structure Fraction where
  num : Nat
  den : Nat

namespace Fraction

def ofScaled (n : Nat) (base : Nat) (exponent : Int) : Fraction :=
  if 0 ≤ exponent then ⟨n * Nat.pow base exponent.toNat, 1⟩
  else ⟨n, Nat.pow base (-exponent).toNat⟩

def le (a b : Fraction) : Bool := a.num * b.den ≤ b.num * a.den

def lt (a b : Fraction) : Bool := a.num * b.den < b.num * a.den

/-- The distance between two fractions. -/
def dist (a b : Fraction) : Fraction :=
  ⟨a.num * b.den - b.num * a.den + (b.num * a.den - a.num * b.den), a.den * b.den⟩

end Fraction

/-- The reals that round to `significand * 2 ^ exponent`. -/
structure Rounding where
  low : Fraction
  high : Fraction
  closed : Bool

def Rounding.ofSignificand (significand : Nat) (exponent : Int) : Rounding :=
  let low :=
    if significand = Nat.pow 2 52 && leastExponent < exponent then
      Fraction.ofScaled (4 * significand - 1) 2 (exponent - 2)
    else Fraction.ofScaled (2 * significand - 1) 2 (exponent - 1)
  ⟨low, Fraction.ofScaled (2 * significand + 1) 2 (exponent - 1), significand % 2 == 0⟩

def Rounding.contains (r : Rounding) (x : Fraction) : Bool :=
  if r.closed then r.low.le x && x.le r.high else r.low.lt x && x.lt r.high

/-- The decimal place of the leading digit. -/
def leadingPlace (x : Fraction) : Int :=
  if x.den ≤ x.num then (Nat.toDigits 10 (x.num / x.den)).length - 1
  else
    let places := ((List.range 400).find? fun j => x.den ≤ x.num * Nat.pow 10 j).getD 400
    Int.negOfNat places

/-- The nearest of the two decimals around the number with the given last place, if one of them
rounds to the number. -/
def candidate? (x : Fraction) (r : Rounding) (place : Int) : Option Nat :=
  let unit := Fraction.ofScaled 1 10 place
  let below := x.num * unit.den / (x.den * unit.num)
  let point (n : Nat) : Fraction := Fraction.ofScaled n 10 place
  let fits := [below, below + 1].filter fun n => r.contains (point n)
  match fits with
  | [a, b] => if ((point b).dist x).lt ((point a).dist x) then some b else some a
  | [a] => some a
  | _ => none

/-- Digits and the place of the last one. -/
def shortest (significand : Nat) (exponent : Int) : Nat × Int :=
  let x := Fraction.ofScaled significand 2 exponent
  let r := Rounding.ofSignificand significand exponent
  let lead := leadingPlace x
  let found := (List.range 17).findSome? fun (i : Nat) =>
    let place := lead - (i : Int)
    (candidate? x r place).map fun digits => (digits, place)
  found.getD (0, 0)

/-- Digits with the point put where the place of the last one says. -/
def positional (digits : Nat) (place : Int) : List Char :=
  let text := Nat.toDigits 10 digits
  if 0 ≤ place then text ++ List.replicate place.toNat '0' ++ ['.', '0']
  else
    let places := (-place).toNat
    let text := List.replicate (places + 1 - text.length) '0' ++ text
    text.take (text.length - places) ++ '.' :: text.drop (text.length - places)

/-- Drops zeros at the end of the digits. -/
def trimZeros : Nat → Nat → Int → Nat × Int
  | 0, digits, place => (digits, place)
  | n + 1, digits, place =>
      if digits ≠ 0 && digits % 10 = 0 then trimZeros n (digits / 10) (place + 1) else (digits, place)

def Binary64.render : Binary64 → String
  | .notANumber => "NaN"
  | .infinite negative => if negative then "-inf" else "inf"
  | .finite negative significand exponent =>
      let text :=
        if significand = 0 then ['0', '.', '0']
        else
          let (digits, place) := shortest significand exponent
          let (digits, place) := trimZeros 20 digits place
          positional digits place
      String.ofList (if negative then '-' :: text else text)

end NamingLint.Decimal
