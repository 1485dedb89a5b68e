namespace QueryText.Decimal.Shortest

structure Scaled where
  coefficient : Nat
  exponent : Int
  deriving DecidableEq

/-- The number `mantissa · 2 ^ exponent`; `narrowBelow` holds at a power of two, where the numbers
below lie twice as dense as those above. -/
structure Binary where
  mantissa : Nat
  exponent : Int
  narrowBelow : Bool
  deriving DecidableEq

/-- Fraction and exponent fields of the double-precision bit pattern of a finite number. -/
def Binary.ofBits (bits : UInt64) : Binary :=
  let fraction : Nat := bits.toNat % Nat.pow 2 52
  let biased : Nat := bits.toNat / Nat.pow 2 52 % Nat.pow 2 11
  if biased = 0 then ⟨fraction, -1074, false⟩
  else ⟨Nat.pow 2 52 + fraction, (biased : Int) - 1075, fraction = 0 && biased != 1⟩

/-- The value, the lower and the upper end of the interval, over one denominator. -/
structure Interval where
  value : Nat
  low : Nat
  high : Nat
  denominator : Nat
  closed : Bool

/-- Quarter units of the last binary place keep all three numerators whole. -/
def Binary.interval (b : Binary) : Interval :=
  let scale := Nat.pow 2 (b.exponent - 2).toNat
  { value := 4 * b.mantissa * scale
    low := (4 * b.mantissa - (if b.narrowBelow then 1 else 2)) * scale
    high := (4 * b.mantissa + 2) * scale
    denominator := Nat.pow 2 (2 - b.exponent).toNat
    closed := b.mantissa % 2 == 0 }

def Interval.holds (i : Interval) (coefficient unit units : Nat) : Bool :=
  let x := coefficient * unit * i.denominator
  if i.closed then i.low * units ≤ x && x ≤ i.high * units
  else i.low * units < x && x < i.high * units

/-- On the grid of multiples of `10 ^ k`, the one in the interval nearest to the value. -/
def Interval.onGrid? (i : Interval) (k : Int) : Option Nat :=
  let unit := Nat.pow 10 k.toNat
  let units := Nat.pow 10 (-k).toNat
  let below := i.value * units / (unit * i.denominator)
  let twice := 2 * i.value * units
  let nearBelow := twice < (2 * below + 1) * unit * i.denominator
  match i.holds below unit units, i.holds (below + 1) unit units with
  | true, true => some (if nearBelow then below else below + 1)
  | true, false => some below
  | false, true => some (below + 1)
  | false, false => none

def digitCount (n : Nat) : Nat :=
  (Nat.toDigits 10 n).length

/-- The power of ten of the leading digit of `value / denominator`. -/
def Interval.magnitude (i : Interval) : Int :=
  if i.denominator ≤ i.value then digitCount (i.value / i.denominator) - 1
  else
    let m := digitCount (i.denominator / i.value)
    if i.denominator ≤ i.value * Nat.pow 10 (m - 1) then 1 - (m : Int) else -(m : Int)

/-- The first grid with a hit, from the coarsest down, for at most `fuel` grids. -/
def Interval.search (i : Interval) (k : Int) : Nat → Scaled
  | 0 => ⟨i.value, 0⟩
  | fuel + 1 =>
    match i.onGrid? k with
    | some c => ⟨c, k⟩
    | none => i.search (k - 1) fuel

def Binary.shortest (b : Binary) : Scaled :=
  b.interval.search b.interval.magnitude 18

end QueryText.Decimal.Shortest
