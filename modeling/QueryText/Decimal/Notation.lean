import QueryText.Decimal.Shortest

namespace QueryText.Decimal.Notation

open Shortest

/-- Digits without the zeros at their end, and the number of those zeros. -/
def stripZeros (digits : List Char) : List Char × Nat :=
  let kept := (digits.reverse.dropWhile (· == '0')).reverse
  (kept, digits.length - kept.length)

def zeros (n : Nat) : List Char :=
  List.replicate n '0'

/-- `digits · 10 ^ exponent` with a point; an integer part and a fraction are never empty. -/
def positional (digits : List Char) (exponent : Int) : List Char :=
  let point := digits.length + exponent
  if 0 ≤ exponent then digits ++ zeros exponent.toNat ++ ['.', '0']
  else if 0 < point then digits.take point.toNat ++ '.' :: digits.drop point.toNat
  else '0' :: '.' :: zeros (-point).toNat ++ digits

/-- One digit before the point, and the power of ten that then remains. -/
def scientific (digits : List Char) (exponent : Int) : List Char :=
  let power := digits.length + exponent - 1
  digits.take 1 ++ (if digits.length ≤ 1 then [] else '.' :: digits.drop 1)
    ++ 'e' :: (toString power).toList

/-- The two forms by the size of the number `digits · 10 ^ exponent`. -/
def unsigned (d : Scaled) : List Char :=
  let (digits, dropped) := stripZeros (Nat.toDigits 10 d.coefficient)
  let exponent := d.exponent + dropped
  let power := digits.length + exponent - 1
  if -4 ≤ power && power < 16 then positional digits exponent else scientific digits exponent

def isNegative (bits : UInt64) : Bool :=
  bits.toNat / Nat.pow 2 63 == 1

def isFinite (x : Float) : Bool :=
  x.toBits.toNat / Nat.pow 2 52 % Nat.pow 2 11 != 2047

def floatText (x : Float) : String :=
  let bits := x.toBits
  let sign := if isNegative bits then "-" else ""
  if bits.toNat % Nat.pow 2 63 == 0 then sign ++ "0.0"
  else if isFinite x then sign ++ String.ofList (unsigned (Binary.ofBits bits).shortest)
  else if bits.toNat % Nat.pow 2 52 == 0 then sign ++ "inf"
  else "NaN"

end QueryText.Decimal.Notation
