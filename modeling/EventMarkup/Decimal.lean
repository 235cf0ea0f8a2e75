/-!
# Decimal fractions

A decimal fraction is a sign, digits and the power of ten that they count. It is written with the
digits that matter and no others: with a point where that takes few zeros, else with one digit
before the point and a power of ten.
-/
namespace EventMarkup

/-- The number `digits * 10 ^ exponent`, or its negative. Zero has either sign. -/
structure Decimal where
  negative : Bool := false
  digits : Nat
  exponent : Int := 0
  deriving DecidableEq, Repr

namespace Decimal

/-- The digits that matter: all but zeros at the end. Zero has none. -/
def significant (d : Decimal) : List Char :=
  ((Nat.toDigits 10 d.digits).reverse.dropWhile (· = '0')).reverse

/-- How many digits stand before the point; a negative number counts zeros behind it. -/
def point (d : Decimal) : Int := (Nat.toDigits 10 d.digits).length + d.exponent

def orZero (cs : List Char) : List Char := if cs = [] then ['0'] else cs

/-- Digits with a point among, before or behind them, and at least one on each side of it. -/
def positional (cs : List Char) (point : Int) : List Char :=
  let front := cs.take point.toNat
  let behind := List.replicate (-point).toNat '0' ++ cs.drop point.toNat
  orZero (front ++ List.replicate (point.toNat - front.length) '0') ++ '.' :: orZero behind

def power (n : Int) : List Char :=
  let digits := Nat.toDigits 10 n.natAbs
  'e' :: (if n < 0 then '-' else '+') :: List.replicate (2 - digits.length) '0' ++ digits

/-- Digits with a point behind the first of several, and a power of ten. -/
def scientific (cs : List Char) (point : Int) : List Char :=
  cs.take 1 ++ (if cs.length = 1 then [] else '.' :: cs.drop 1) ++ power (point - 1)

/-- The text of a decimal fraction. At most three zeros stand between the point and the first digit
that matters, and at most sixteen digits before the point. -/
def toText (d : Decimal) : String :=
  let unsigned :=
    if d.significant = [] then "0.0".toList
    else if -4 < d.point ∧ d.point ≤ 16 then positional d.significant d.point
    else scientific d.significant d.point
  (if d.negative then "-" else "") ++ String.ofList unsigned

/-! ## Reading -/

def isPowerMark (c : Char) : Bool := c = 'e' || c = 'E'

/-- The number that digits make up; other characters do not count. -/
def number (cs : List Char) : Nat := ((String.ofList (cs.filter Char.isDigit)).toNat?).getD 0

/-- The power of ten that a text ends with. -/
def readPower (cs : List Char) : Int :=
  match (cs.dropWhile fun c => !isPowerMark c).drop 1 with
  | '-' :: rest => -(number rest : Int)
  | rest => number rest

/-- The decimal fraction that a text stands for: digits with a sign, a point and a power of ten, of
which all but the digits may be missing. -/
def ofText (t : String) : Decimal :=
  let cs := t.toList
  let mantissa := cs.takeWhile fun c => !isPowerMark c
  let fraction := (mantissa.dropWhile (· ≠ '.')).drop 1
  { negative := cs.head? = some '-'
    digits := number mantissa
    exponent := readPower cs - fraction.length }

end Decimal

end EventMarkup
