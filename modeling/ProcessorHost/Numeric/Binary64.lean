/-!
# Binary floating point with 53 significant bits

`Binary64` holds the finite numbers `± mantissa * 2 ^ exponent` of the 64-bit binary
format. Every operation computes the exact ratio of two natural numbers first and
rounds it once, to the nearest representable number, ties to the even mantissa.
-/

namespace ProcessorHost

/-- A finite number of the 64-bit binary format, `± mantissa * 2 ^ exponent`. -/
structure Binary64 where
  negative : Bool
  mantissa : Nat
  exponent : Int
deriving DecidableEq, Repr, Inhabited

namespace Binary64

/-- The least exponent of the format. -/
def minExponent : Int := -1074

/-- The greatest exponent of the format. -/
def maxExponent : Int := 971

/-- Mantissas lie below `2 ^ 53`. -/
def mantissaLimit : Nat := 0x20000000000000

/-- Both zeros are kept at the least exponent. -/
def zero (negative : Bool) : Binary64 := ⟨negative, 0, minExponent⟩

def isZero (x : Binary64) : Bool := x.mantissa == 0

/-- Numerator of the magnitude as an exact ratio. -/
def num (x : Binary64) : Nat := x.mantissa * Nat.pow 2 x.exponent.toNat

/-- Denominator of the magnitude as an exact ratio. -/
def den (x : Binary64) : Nat := Nat.pow 2 (-x.exponent).toNat

end Binary64

/-- The integer nearest to `n / d`, a half going to the even neighbour. -/
def roundHalfEven (n d : Nat) : Nat :=
  let q := n / d
  let r := n % d
  if 2 * r < d then q
  else if d < 2 * r then q + 1
  else if q % 2 = 0 then q else q + 1

namespace Binary64

/-- The pair whose quotient is `n / d / 2 ^ e`. -/
def scaled (n d : Nat) (e : Int) : Nat × Nat :=
  (n * Nat.pow 2 (-e).toNat, d * Nat.pow 2 e.toNat)

/-- The exponent at which `n / d` has a 53-bit integer part, or the least one. -/
def exponentOf (n d : Nat) : Int :=
  let guess : Int := (Nat.log2 n : Int) - (Nat.log2 d : Int) - 52
  let (a, b) := scaled n d guess
  let exact := if a / b < 0x10000000000000 then guess - 1 else guess
  max exact minExponent

/-- The number nearest to `n / d`, ties to the even mantissa; nothing when it is too large. -/
def ofRatio? (negative : Bool) (n d : Nat) : Option Binary64 :=
  if n = 0 then some (zero negative)
  else
    let e := exponentOf n d
    let (a, b) := scaled n d e
    let m := roundHalfEven a b
    let x : Binary64 :=
      if m = mantissaLimit then ⟨negative, 0x10000000000000, e + 1⟩ else ⟨negative, m, e⟩
    if maxExponent < x.exponent then none else some x

/-- The number nearest to a natural number of at most 128 bits. -/
def ofNat (n : Nat) : Binary64 := (ofRatio? false n 1).getD (zero false)

/-- The rounded product; nothing on overflow. -/
def mul? (x y : Binary64) : Option Binary64 :=
  ofRatio? (x.negative != y.negative) (x.num * y.num) (x.den * y.den)

/-- The rounded quotient by a divisor that is not zero; nothing on overflow. -/
def div? (x y : Binary64) : Option Binary64 :=
  ofRatio? (x.negative != y.negative) (x.num * y.den) (x.den * y.num)

/-- The rounded sum of two magnitudes; nothing on overflow. -/
def addMagnitudes? (x y : Binary64) : Option Binary64 :=
  ofRatio? false (x.num * y.den + y.num * x.den) (x.den * y.den)

end Binary64

end ProcessorHost
