/-
  Whole numbers as text. Reading accepts blanks around the number, one sign, decimal digits of any
  script and single underscores between digits. A number of more than 4300 digits is refused for
  its length alone, by reading and by writing.
-/
import VCardKit.Text.Blank
import VCardKit.Text.Digit

namespace VCardKit.Decimal

open VCardKit.Text

/-- The greatest number of digits that is read or written. -/
def digitLimit : Nat := 4300

/-- The text of the refusal of a number of too many digits, with a remark on the number. -/
def refusal (remark : String) : String :=
  "Exceeds the limit (" ++ toString digitLimit ++ " digits) for integer string conversion" ++
    remark ++ "; use sys.set_int_max_str_digits() to increase the limit"

/-- The refusal to read a number of too many digits. -/
def limitMessage (count : Nat) : String := refusal (": value has " ++ toString count ++ " digits")

/-- The refusal to write a number of too many digits. -/
def writingLimitMessage : String := refusal ""

/-- A number of few enough digits to be written. -/
def isWritable (n : Int) : Bool := n.natAbs < Nat.pow 10 digitLimit

/-- Blanks that may stand around a number: the information separators U+001C to U+001F may
not. -/
def isNumberBlank (c : Char) : Bool := isBlank c && !(0x1C ≤ c.toNat && c.toNat ≤ 0x1F)

/-- The values of a run of digits, in which single underscores may stand between digits. -/
def digitRun? : List Char → Option (List Nat)
  | [] => none
  | [c] => (digitValue? c).map ([·])
  | c :: d :: rest => do
    let v ← digitValue? c
    let vs ← if d = '_' then digitRun? rest else digitRun? (d :: rest)
    return v :: vs

/-- The number with the given digits, the first being the highest. -/
def ofDigits (digits : List Nat) : Nat := digits.foldl (fun n d => 10 * n + d) 0

/-- The sign in front of a number, and the rest. -/
def signed : List Char → Bool × List Char
  | '-' :: rest => (true, rest)
  | '+' :: rest => (false, rest)
  | cs => (false, cs)

/-- The text without the blanks that may stand around a number. -/
def trimNumber (cs : List Char) : List Char :=
  ((cs.dropWhile isNumberBlank).reverse.dropWhile isNumberBlank).reverse

/-- The whole number that a text stands for. -/
def integer? (s : String) : Option Int :=
  let (negative, digits) := signed (trimNumber s.toList)
  match digitRun? digits with
  | none => none
  | some ds =>
    if ds.length ≤ digitLimit then some (if negative then -(ofDigits ds : Int) else ofDigits ds)
    else none

end VCardKit.Decimal
