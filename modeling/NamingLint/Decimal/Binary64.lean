/-!
Binary floating-point numbers of 64 bits, as far as decimal text needs them: the value nearest to
a decimal, ties to the even significand. A finite number is `significand * 2 ^ exponent`.
-/

namespace NamingLint.Decimal

inductive Binary64 where
  | finite (negative : Bool) (significand : Nat) (exponent : Int)
  | infinite (negative : Bool)
  | notANumber
  deriving Repr, DecidableEq

/-- The quotient rounded to the nearest integer, a half to the even one. -/
def roundDiv (num den : Nat) : Nat :=
  let quotient := num / den
  let twice := 2 * (num % den)
  if twice < den then quotient
  else if den < twice then quotient + 1
  else quotient + quotient % 2

def leastExponent : Int := -1074

def greatestExponent : Int := 971

/-- `num / den * 2 ^ -exponent`, rounded. -/
def scaled (num den : Nat) (exponent : Int) : Nat :=
  if 0 ≤ exponent then roundDiv num (den * Nat.pow 2 exponent.toNat)
  else roundDiv (num * Nat.pow 2 (-exponent).toNat) den

/-- The nearest number to a positive fraction. -/
def ofFraction (negative : Bool) (num den : Nat) : Binary64 :=
  let guess : Int := max leastExponent ((num.log2 : Int) - den.log2 - 53)
  let exponent := if scaled num den guess < Nat.pow 2 53 then guess else guess + 1
  let significand := scaled num den exponent
  let (significand, exponent) :=
    if significand < Nat.pow 2 53 then (significand, exponent) else (significand / 2, exponent + 1)
  if greatestExponent < exponent then .infinite negative
  else .finite negative significand exponent

/-- The nearest number to `digits * 10 ^ exponent`. Far outside the range nothing is computed. -/
def ofDecimal (negative : Bool) (digits : Nat) (exponent : Int) : Binary64 :=
  let magnitude := (Nat.toDigits 10 digits).length + exponent
  if digits = 0 || magnitude < -400 then .finite negative 0 0
  else if 400 < magnitude then .infinite negative
  else if 0 ≤ exponent then ofFraction negative (digits * Nat.pow 10 exponent.toNat) 1
  else ofFraction negative digits (Nat.pow 10 (-exponent).toNat)

end NamingLint.Decimal
