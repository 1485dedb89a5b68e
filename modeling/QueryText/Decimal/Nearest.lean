namespace QueryText.Decimal.Nearest

structure Format where
  fractionBits : Nat
  exponentBits : Nat
  deriving DecidableEq

namespace Format

def single : Format :=
  ⟨23, 8⟩

def double : Format :=
  ⟨52, 11⟩

def lowest (f : Format) : Int :=
  2 - Nat.pow 2 (f.exponentBits - 1) - f.fractionBits

/-- The pattern of infinity, which is the next one after the largest finite number. -/
def infinity (f : Format) : Nat :=
  (Nat.pow 2 f.exponentBits - 1) * Nat.pow 2 f.fractionBits

def signBit (f : Format) : Nat :=
  Nat.pow 2 (f.fractionBits + f.exponentBits)

end Format

/-- The quotient to the nearest integer, a half to the even one. -/
def roundDiv (n d : Nat) : Nat :=
  let rest := 2 * (n % d)
  if rest < d || rest = d && n / d % 2 = 0 then n / d else n / d + 1

def magnitude (n d : Nat) : Int :=
  let m : Int := (n.log2 : Int) - d.log2
  if d * Nat.pow 2 m.toNat ≤ n * Nat.pow 2 (-m).toNat then m else m - 1

/-- The power of two of the last place that the format has for `n / d`. -/
def lastPlace (f : Format) (n d : Nat) : Int :=
  max f.lowest (magnitude n d - f.fractionBits)

/-- The pattern of the number nearest to `n / d`. Patterns of numbers ascend as the numbers do, so
that a mantissa rounded up to the next power of two carries into the exponent. -/
def bits (f : Format) (n d : Nat) : Nat :=
  if n = 0 then 0
  else
    let place := lastPlace f n d
    let mantissa := roundDiv (n * Nat.pow 2 (-place).toNat) (d * Nat.pow 2 place.toNat)
    min ((place - f.lowest).toNat * Nat.pow 2 f.fractionBits + mantissa) f.infinity

end QueryText.Decimal.Nearest
