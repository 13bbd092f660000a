import ProcessorHost.Numeric.Binary64

/-!
# Shortest decimal text of a binary number

`Binary64.shortest` gives the fewest decimal digits that read back as the same number,
and of those the nearest. `Binary64.text` writes them the way JSON numbers are written
by this library.
-/

namespace ProcessorHost

namespace Binary64

/-- The ratios that round to a number: those between `low` and `high` over `den`,
the ends included when the mantissa is even. -/
structure Neighbourhood where
  low : Nat
  value : Nat
  high : Nat
  den : Nat
  closed : Bool

/-- Halfway to the neighbours on either side; below a power of two the gap is half as wide. -/
def neighbourhood (x : Binary64) : Neighbourhood :=
  let narrow := x.mantissa = 0x10000000000000 ∧ minExponent < x.exponent
  let up := Nat.pow 2 x.exponent.toNat
  { low := (if narrow then 4 * x.mantissa - 1 else 4 * x.mantissa - 2) * up
    value := 4 * x.mantissa * up
    high := (4 * x.mantissa + 2) * up
    den := 4 * x.den
    closed := x.mantissa % 2 = 0 }

/-- Whether `n / d` rounds to the number. -/
def Neighbourhood.contains (h : Neighbourhood) (n d : Nat) : Bool :=
  let below := h.low * d
  let above := h.high * d
  let here := n * h.den
  if h.closed then below ≤ here && here ≤ above else below < here && here < above

/-- The numerator and denominator of `k * 10 ^ e`. -/
def decimalRatio (k : Nat) (e : Int) : Nat × Nat :=
  (k * Nat.pow 10 e.toNat, Nat.pow 10 (-e).toNat)

/-- The exponent of the first digit of `n / d`: `10 ^ e ≤ n / d < 10 ^ (e + 1)`. -/
def leadingExponent (n d : Nat) : Int :=
  let guess : Int := ((Nat.toDigits 10 n).length : Int) - ((Nat.toDigits 10 d).length : Int)
  let (a, b) := decimalRatio 1 guess
  if n * b < a * d then guess - 1 else guess

/-- The nearer of the two points beside the number on the grid of step `10 ^ e`
that reads back, if any; a tie goes to the even one. -/
def gridPoint? (h : Neighbourhood) (e : Int) : Option Nat :=
  let (a, b) := decimalRatio 1 e
  let n := h.value * b
  let d := h.den * a
  let q := n / d
  let holds (k : Nat) : Bool := let (p, r) := decimalRatio k e; h.contains p r
  match holds q && q != 0, holds (q + 1) with
  | true, true => some (roundHalfEven n d)
  | true, false => some q
  | false, true => some (q + 1)
  | false, false => none

/-- The coarsest of the given grids with a point that reads back. -/
def firstGrid (h : Neighbourhood) (lead : Int) : List Nat → Option (Nat × Int)
  | [] => none
  | k :: rest =>
    match gridPoint? h (lead - k) with
    | some digits => some (digits, lead - k)
    | none => firstGrid h lead rest

/-- Moves trailing zeros of the digits into the exponent. -/
def dropZeros : Nat → Nat → Int → Nat × Int
  | 0, digits, e => (digits, e)
  | fuel + 1, digits, e =>
    if digits % 10 = 0 then dropZeros fuel (digits / 10) (e + 1) else (digits, e)

/-- The shortest decimal `digits * 10 ^ e` that reads back as the magnitude of the number. -/
def shortest (x : Binary64) : Nat × Int :=
  if x.mantissa = 0 then (0, 0)
  else
    let h := x.neighbourhood
    let (digits, e) := (firstGrid h (leadingExponent h.value h.den) (List.range 18)).getD (0, 0)
    dropZeros 20 digits e

end Binary64

/-- The layout of a decimal number as text. -/
structure DecimalLayout where
  /-- Exponents of the first digit from here on are written without an exponent part. -/
  plainFrom : Int
  /-- Exponents of the first digit up to here are written without an exponent part. -/
  plainTo : Int
  /-- What stands between the digits and the exponent. -/
  mark : String
  /-- What stands before an exponent that is not negative. -/
  plus : String

namespace DecimalLayout

/-- Writes `digits * 10 ^ e` with at least one decimal, or with an exponent part. -/
def write (layout : DecimalLayout) (digits : Nat) (e : Int) : String :=
  let text := toString digits
  let lead : Int := e + text.length - 1
  if layout.plainFrom ≤ lead ∧ lead ≤ layout.plainTo then
    if 0 ≤ e then text ++ String.ofList (List.replicate e.toNat '0') ++ ".0"
    else if 0 ≤ lead then
      let whole := (lead + 1).toNat
      (text.take whole).toString ++ "." ++ (text.drop whole).toString
    else "0." ++ String.ofList (List.replicate (-lead - 1).toNat '0') ++ text
  else
    let first := (text.take 1).toString
    let rest := (text.drop 1).toString
    let fraction := if rest.isEmpty then "" else "." ++ rest
    let sign := if lead < 0 then "-" else layout.plus
    first ++ fraction ++ layout.mark ++ sign ++ toString lead.natAbs

end DecimalLayout

namespace Binary64

/-- Exponents from -5 to 15 are written out; others as in `1.5e-7` and `1e+16`. -/
def layout : DecimalLayout := ⟨-5, 15, "e", "+"⟩

/-- The number as JSON text. -/
def text (x : Binary64) : String :=
  let sign := if x.negative then "-" else ""
  if x.mantissa = 0 then sign ++ "0.0"
  else
    let (digits, e) := x.shortest
    sign ++ layout.write digits e

end Binary64

end ProcessorHost
