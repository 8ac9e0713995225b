/-
  Reading a date, a time of day or both from the front of a text. Every number in them has a fixed
  count of digits and a range; a time that does not keep to them is not part of the date before it.
-/
import VCardKit.Toml.Moment
import VCardKit.Toml.Scalar

namespace VCardKit.Toml

/-- The number that the next digits write, if there are enough of them and it lies in a range. -/
def field? (width low high : Nat) (cs : List Char) : Option (Found Nat) :=
  let digits := cs.take width
  let n := Decimal.asciiNumber digits
  if digits.length = width && digits.all Char.isDigit && low ≤ n && n ≤ high then
    some (n, cs.drop width)
  else none

/-- The text behind a character. -/
def behind? (mark : Char) : List Char → Option (List Char)
  | c :: rest => if c = mark then some rest else none
  | [] => none

/-- A date that may have too many days for its month. -/
def date? (cs : List Char) : Option (Found Date) := do
  let (year, cs) ← field? 4 0 9999 cs
  let (month, cs) ← field? 2 1 12 (← behind? '-' cs)
  let (day, cs) ← field? 2 1 31 (← behind? '-' cs)
  return (⟨year, month, day⟩, cs)

/-- The microseconds behind a point. Digits behind the sixth are dropped. -/
def micros (cs : List Char) : Found Nat :=
  match cs with
  | '.' :: rest =>
    match rest.takeWhile Char.isDigit with
    | [] => (0, cs)
    | digits => (Decimal.asciiNumber ((digits ++ List.replicate 5 '0').take 6),
        rest.dropWhile Char.isDigit)
  | _ => (0, cs)

/-- An hour and a minute. -/
def hourMinute? (cs : List Char) : Option (Found (Nat × Nat)) := do
  let (hour, cs) ← field? 2 0 23 cs
  let (minute, cs) ← field? 2 0 59 (← behind? ':' cs)
  return ((hour, minute), cs)

/-- A time of day. -/
def clock? (cs : List Char) : Option (Found Clock) := do
  let ((hour, minute), cs) ← hourMinute? cs
  let (second, cs) ← field? 2 0 59 (← behind? ':' cs)
  let (micro, cs) := micros cs
  return (⟨hour, minute, second, micro⟩, cs)

/-- The offset behind a time, in minutes, if there is one. -/
def offset (cs : List Char) : Found (Option Int) :=
  match cs with
  | [] => (none, cs)
  | sign :: rest =>
    if sign = 'Z' || sign = 'z' then (some 0, rest)
    else if sign = '+' || sign = '-' then
      match hourMinute? rest with
      | some ((hour, minute), rest) =>
        let minutes : Int := 60 * hour + minute
        (some (if sign = '-' then -minutes else minutes), rest)
      | none => (none, cs)
    else (none, cs)

/-- A date with the time that may follow it, behind a `T` or a space. -/
def dated (date : Date) (cs : List Char) : Found Moment :=
  let time : Option (Found Clock) :=
    match cs with
    | mark :: rest => if mark = 'T' || mark = 't' || mark = ' ' then clock? rest else none
    | [] => none
  match time with
  | some (clock, rest) =>
    let (minutes, rest) := offset rest
    (.dated date clock minutes, rest)
  | none => (.date date, cs)

/-- A moment of any kind. -/
def moment? (cs : List Char) : Option (Found Moment) :=
  match date? cs with
  | some (date, rest) => some (dated date rest)
  | none => (clock? cs).map fun f => (.clock f.1, f.2)

end VCardKit.Toml
