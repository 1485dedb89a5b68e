namespace QueryText

structure Date where
  year : Int
  month : Nat
  day : Nat
  deriving DecidableEq

/-- A time of day. A leap second is second 59 with a billion nanoseconds or more. -/
structure Time where
  hour : Nat
  minute : Nat
  second : Nat
  nanos : Nat
  deriving DecidableEq

structure DateTime where
  date : Date
  time : Time
  deriving DecidableEq

namespace Calendar

def padded (width n : Nat) : String :=
  let digits := Nat.toDigits 10 n
  String.ofList (List.replicate (width - digits.length) '0' ++ digits)

/-- Years `0` to `9999` have four digits; others carry a sign and have at least four digits. -/
def yearText (y : Int) : String :=
  if y < 0 then "-" ++ padded 4 y.natAbs
  else if 9999 < y then "+" ++ padded 4 y.natAbs
  else padded 4 y.natAbs

end Calendar

namespace Date

open Calendar

def text (d : Date) : String :=
  yearText d.year ++ "-" ++ padded 2 d.month ++ "-" ++ padded 2 d.day

end Date

namespace Time

open Calendar

def isLeap (t : Time) : Bool :=
  1000000000 ≤ t.nanos

/-- Hours, minutes and whole seconds; a leap second is second 60. -/
def clock (t : Time) : String :=
  padded 2 t.hour ++ ":" ++ padded 2 t.minute ++ ":" ++ padded 2 (t.second + if t.isLeap then 1 else 0)

/-- The part of a second, in the fewest groups of three digits that hold it. -/
def fraction (t : Time) : String :=
  let n := if t.isLeap then t.nanos - 1000000000 else t.nanos
  if n = 0 then ""
  else if n % 1000000 = 0 then "." ++ padded 3 (n / 1000000)
  else if n % 1000 = 0 then "." ++ padded 6 (n / 1000)
  else "." ++ padded 9 n

def text (t : Time) : String :=
  t.clock ++ t.fraction

end Time

namespace DateTime

def text (t : DateTime) : String :=
  t.date.text ++ "T" ++ t.time.text

def clock (t : DateTime) : String :=
  t.date.text ++ " " ++ t.time.clock

end DateTime

end QueryText
