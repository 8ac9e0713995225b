/-
  Floating-point numbers as text: the shortest decimal, laid out positionally or with an exponent.
  One record holds the decisions of the layout.
-/
import VCardKit.Decimal.Shortest

namespace VCardKit.Decimal

/-- The decisions of a layout. -/
structure Layout where
  /-- The least exponent of the first digit that is written positionally. -/
  plainFrom : Int
  /-- The least exponent of the first digit, above `plainFrom`, that is not. -/
  plainBelow : Int
  /-- The least number of digits in a written exponent. -/
  exponentDigits : Nat
  /-- What stands behind a whole number written positionally. -/
  wholeSuffix : String
  nan : String
  infinity : String

/-- Numbers in values and messages: positional from `0.0001` up to sixteen digits, whole numbers
with one zero behind the point, exponents signed and of two digits at least. -/
def valueLayout : Layout where
  plainFrom := -4
  plainBelow := 16
  exponentDigits := 2
  wholeSuffix := ".0"
  nan := "nan"
  infinity := "inf"

def zeros (n : Nat) : String := .ofList (List.replicate n '0')

/-- The signed exponent behind the letter e. -/
def Layout.exponentText (l : Layout) (e : Int) : String :=
  let digits := toString e.natAbs
  (if e < 0 then "e-" else "e+") ++ zeros (l.exponentDigits - digits.length) ++ digits

/-- A positive decimal under a layout. -/
def Layout.decimal (l : Layout) (d : Scaled) : String :=
  let digits := Nat.toDigits 10 d.digits
  let lead : Int := d.exponent + digits.length - 1
  if lead < l.plainFrom || l.plainBelow ≤ lead then
    let fraction := if digits.length ≤ 1 then "" else "." ++ .ofList (digits.drop 1)
    .ofList (digits.take 1) ++ fraction ++ l.exponentText lead
  else if lead < 0 then
    "0." ++ zeros (lead.natAbs - 1) ++ .ofList digits
  else if digits.length ≤ lead.toNat + 1 then
    .ofList digits ++ zeros (lead.toNat + 1 - digits.length) ++ l.wholeSuffix
  else
    .ofList (digits.take (lead.toNat + 1)) ++ "." ++ .ofList (digits.drop (lead.toNat + 1))

/-- A floating-point number under a layout. -/
def Layout.float (l : Layout) (x : Float) : String :=
  let bits := x.toBits
  let sign := if bits >>> 63 = 1 then "-" else ""
  let magnitude := bits &&& 0x7FFFFFFFFFFFFFFF
  if magnitude > 0x7FF0000000000000 then l.nan
  else if magnitude = 0x7FF0000000000000 then sign ++ l.infinity
  else if magnitude = 0 then sign ++ "0" ++ l.wholeSuffix
  else sign ++ l.decimal (Rounded.ofBits magnitude).shortest

/-- A floating-point number as values and messages show it. -/
def floatText (x : Float) : String := valueLayout.float x

end VCardKit.Decimal
