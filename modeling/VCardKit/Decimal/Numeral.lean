/-
  Decimal numerals: digits, perhaps a fraction, perhaps an exponent. Digits are ASCII.
-/
namespace VCardKit.Decimal

/-- A run of ASCII digits at the front of a text, and the rest. -/
def digitPrefix (cs : List Char) : List Char × List Char :=
  (cs.takeWhile Char.isDigit, cs.dropWhile Char.isDigit)

/-- The number written by ASCII digits. -/
def asciiNumber (digits : List Char) : Nat :=
  digits.foldl (fun n c => 10 * n + (c.toNat - 48)) 0

/-- The fraction digits behind a point, and the rest; no digits if there is no point. -/
def fractionPrefix : List Char → List Char × List Char
  | '.' :: rest => digitPrefix rest
  | cs => ([], cs)

/-- The exponent that makes up a whole text: a mark, a sign and digits, or nothing at all. -/
def exponent? : List Char → Option Int
  | [] => some 0
  | mark :: rest =>
    if mark = 'e' || mark = 'E' then
      let (negative, digits) := match rest with
        | '-' :: ds => (true, ds)
        | '+' :: ds => (false, ds)
        | ds => (false, ds)
      if digits.isEmpty || !digits.all Char.isDigit then none
      else if negative then some (-(asciiNumber digits : Int))
      else some (asciiNumber digits)
    else none

/-- The float nearest to `digits · 10^exponent`. Exponents beyond the range of floats need no
powers of ten. -/
def nearestFloat (digits : Nat) (exponent : Int) : Float :=
  let size : Int := exponent + (Nat.toDigits 10 digits).length
  if digits = 0 || size < -400 then 0.0
  else if size > 400 then 1.0 / 0.0
  else Float.ofScientific digits (exponent < 0) exponent.natAbs

/-- The float that an unsigned numeral stands for. -/
def numeral? (cs : List Char) : Option Float := do
  let (whole, rest) := digitPrefix cs
  let (fraction, rest) := fractionPrefix rest
  guard (!(whole.isEmpty && fraction.isEmpty))
  let e ← exponent? rest
  return nearestFloat (asciiNumber (whole ++ fraction)) (e - fraction.length)

/-- The float that a text stands for: a numeral, `inf` or `nan`, with or without a sign. -/
def float? (s : String) : Option Float := do
  let (negative, cs) := match s.toList with
    | '-' :: rest => (true, rest)
    | '+' :: rest => (false, rest)
    | cs => (false, cs)
  let x ← if cs = ['i', 'n', 'f'] then some (1.0 / 0.0)
    else if cs = ['n', 'a', 'n'] then some (0.0 / 0.0)
    else numeral? cs
  return if negative then -x else x

end VCardKit.Decimal
