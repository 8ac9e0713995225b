/-
  The shortest decimal of a floating-point number: among the decimals that read back to the number
  the ones with the fewest digits, and of these the one nearest to it. The search is exact, over
  natural numbers. That the interval tested here is the one that rounds to the number is by
  construction of `Rounded.ofBits`; it is not proved against the reader of decimals.
-/
namespace VCardKit.Decimal

/-! ## The number and its interval -/

/-- A positive number `value / scale` with the ends of the interval of the reals that round to it,
over the same scale. The ends belong to the interval when `closed` holds. -/
structure Rounded where
  value : Nat
  low : Nat
  high : Nat
  scale : Nat
  closed : Bool

/-- The interval of the positive finite number with the given bits. The gap below a power of two is
half the gap above it. -/
def Rounded.ofBits (bits : UInt64) : Rounded :=
  let field := ((bits >>> 52) &&& 0x7FF).toNat
  let fraction := (bits &&& 0xFFFFFFFFFFFFF).toNat
  let mantissa := if field = 0 then fraction else Nat.pow 2 52 + fraction
  let power := if field = 0 then 1 else field
  let unit := Nat.pow 2 (power - 1077)
  let below := if fraction = 0 && field > 1 then 1 else 2
  ⟨4 * mantissa * unit, (4 * mantissa - below) * unit, (4 * mantissa + 2) * unit,
    Nat.pow 2 (1077 - power), mantissa % 2 = 0⟩

/-- The decimal `digits · 10^exponent`. -/
structure Scaled where
  digits : Nat
  exponent : Int
  deriving DecidableEq, Repr

/-- The order of a decimal and the fraction `n / scale`. -/
def Scaled.compareTo (d : Scaled) (n scale : Nat) : Ordering :=
  compare (d.digits * Nat.pow 10 d.exponent.toNat * scale)
    (n * Nat.pow 10 (-d.exponent).toNat)

/-- Whether a decimal lies in the interval of a number. -/
def Rounded.holds (x : Rounded) (d : Scaled) : Bool :=
  let low := d.compareTo x.low x.scale
  let high := d.compareTo x.high x.scale
  (low == .gt || (x.closed && low == .eq)) && (high == .lt || (x.closed && high == .eq))

/-! ## The search -/

/-- The number of decimal digits. -/
def digitCount (n : Nat) : Nat := (Nat.toDigits 10 n).length

/-- The exponent `e` with `10^e ≤ value / scale < 10^(e+1)`. -/
def Rounded.leading (x : Rounded) : Int :=
  let e : Int := (digitCount x.value : Int) - digitCount x.scale
  if (Scaled.mk 1 e).compareTo x.value x.scale == .gt then e - 1 else e

/-- The greatest multiple of `10^exponent` that does not exceed the number. -/
def Rounded.floorAt (x : Rounded) (exponent : Int) : Scaled :=
  ⟨x.value * Nat.pow 10 (-exponent).toNat / (x.scale * Nat.pow 10 exponent.toNat), exponent⟩

/-- The decimal nearest to the number among its two neighbours with the given number of digits, if
one reads back; the even one if both are equally near. -/
def Rounded.nearest? (x : Rounded) (digits : Nat) : Option Scaled :=
  let below := x.floorAt (x.leading + 1 - digits)
  let above := { below with digits := below.digits + 1 }
  if x.holds below && x.holds above then
    let middle : Scaled := ⟨below.digits * 2 + 1, below.exponent⟩
    match middle.compareTo (2 * x.value) x.scale with
    | .lt => some above
    | .gt => some below
    | .eq => some (if below.digits % 2 = 0 then below else above)
  else if x.holds below then some below
  else if x.holds above then some above
  else none

/-- A decimal without the zeros at the end of its digits. -/
def Scaled.stripZeros : Nat → Scaled → Scaled
  | 0, d => d
  | fuel + 1, d =>
    if d.digits ≠ 0 && d.digits % 10 = 0 then
      stripZeros fuel ⟨d.digits / 10, d.exponent + 1⟩
    else d

/-- The exact value of a number whose scale is a power of two. -/
def Rounded.exact (x : Rounded) : Scaled :=
  let places := x.scale.log2
  ⟨x.value * Nat.pow 5 places, -places⟩

/-- The shortest decimal that reads back to the number. Seventeen digits have always sufficed;
beyond them the exact value stands. -/
def Rounded.shortest (x : Rounded) : Scaled :=
  let d := ((List.range' 1 17).findSome? x.nearest?).getD x.exact
  d.stripZeros (digitCount d.digits)

end VCardKit.Decimal
