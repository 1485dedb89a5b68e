import QueryText.Decimal.Digits
import QueryText.Decimal.Nearest

namespace QueryText.Decimal.Reading

open Digits Nearest

def splitSign : List Char → Bool × List Char
  | '-' :: cs => (true, cs)
  | '+' :: cs => (false, cs)
  | cs => (false, cs)

def splitFraction : List Char → List Char × List Char
  | '.' :: cs => split cs
  | cs => ([], cs)

def exponent : List Char → Int
  | 'e' :: cs | 'E' :: cs =>
    let (negative, cs) := splitSign cs
    if negative then -(number cs : Int) else number cs
  | _ => 0

def decimalBits (f : Format) (cs : List Char) : Nat :=
  let (negative, cs) := splitSign cs
  let (whole, cs) := split cs
  let (fraction, cs) := splitFraction cs
  let power := exponent cs - fraction.length
  let pattern := bits f (number (whole ++ fraction) * Nat.pow 10 power.toNat) (Nat.pow 10 (-power).toNat)
  if negative then f.signBit + pattern else pattern

def notANumber (f : Format) : Nat :=
  f.infinity + Nat.pow 2 (f.fractionBits - 1)

def textBits (f : Format) (s : String) : Nat :=
  if s = "NaN" then notANumber f
  else if s = "inf" then f.infinity
  else if s = "-inf" then f.signBit + f.infinity
  else decimalBits f s.toList

def double (s : String) : Float :=
  Float.ofBits (UInt64.ofNat (textBits .double s))

def single (s : String) : Float :=
  (Float32.ofBits (UInt32.ofNat (textBits .single s))).toFloat

end QueryText.Decimal.Reading
