/-
  Dates, times of day, and dates with a time of day. A moment has two written forms: `text`, when it
  stands alone, and `display`, inside an array or a table.
-/
namespace VCardKit.Toml

/-- A date of the calendar in which every fourth year is a leap year, but of the years that end a
century only every fourth. -/
structure Date where
  year : Nat
  month : Nat
  day : Nat
  deriving DecidableEq, Repr

/-- A time of day, to the microsecond. -/
structure Clock where
  hour : Nat
  minute : Nat
  second : Nat
  micro : Nat
  deriving DecidableEq, Repr

/-- A point in time, as far as it is given. -/
inductive Moment where
  | date (date : Date)
  | clock (clock : Clock)
  /-- The offset counts the minutes by which the place is ahead of universal time. -/
  | dated (date : Date) (clock : Clock) (offset : Option Int)
  deriving DecidableEq, Repr

/-- A number in decimal digits, padded on the left with zeros. -/
def padded (width n : Nat) : String :=
  let digits := toString n
  .ofList (List.replicate (width - digits.length) '0') ++ digits

/-- Numbers with commas between them, in brackets behind a name. -/
def tupled (name : String) (numbers : List Nat) (more : List String) : String :=
  name ++ "(" ++ ", ".intercalate (numbers.map toString ++ more) ++ ")"

namespace Date

def isLeapYear (year : Nat) : Bool := year % 4 = 0 && (year % 100 != 0 || year % 400 = 0)

/-- The number of days in a month. -/
def daysIn (year month : Nat) : Nat :=
  if month = 2 then if isLeapYear year then 29 else 28
  else if month ∈ [4, 6, 9, 11] then 30
  else 31

/-- Whether the calendar has the date. It begins with the year one. -/
def isValid (d : Date) : Bool :=
  1 ≤ d.year && 1 ≤ d.month && d.month ≤ 12 && 1 ≤ d.day && d.day ≤ daysIn d.year d.month

def numbers (d : Date) : List Nat := [d.year, d.month, d.day]

def text (d : Date) : String :=
  padded 4 d.year ++ "-" ++ padded 2 d.month ++ "-" ++ padded 2 d.day

end Date

namespace Clock

/-- The numbers of a time, without the seconds and the parts of a second if all behind is zero. -/
def numbers (c : Clock) : List Nat :=
  [c.hour, c.minute] ++
    if c.micro != 0 then [c.second, c.micro] else if c.second != 0 then [c.second] else []

def text (c : Clock) : String :=
  padded 2 c.hour ++ ":" ++ padded 2 c.minute ++ ":" ++ padded 2 c.second
    ++ if c.micro = 0 then "" else "." ++ padded 6 c.micro

end Clock

namespace Moment

/-- Whether the calendar has the date of a moment. -/
def isValid : Moment → Bool
  | date d | dated d _ _ => d.isValid
  | clock _ => true

/-- An offset in hours and minutes. -/
def offsetText (minutes : Int) : String :=
  (if minutes < 0 then "-" else "+")
    ++ padded 2 (minutes.natAbs / 60) ++ ":" ++ padded 2 (minutes.natAbs % 60)

def text : Moment → String
  | date d => d.text
  | clock c => c.text
  | dated d c offset => d.text ++ " " ++ c.text ++ (offset.map offsetText).getD ""

/-- An offset as a span of time, which counts seconds upwards from a whole day. -/
def offsetDisplay (minutes : Int) : String :=
  if minutes = 0 then "datetime.timezone.utc"
  else
    let seconds := toString (60 * minutes.emod 1440)
    "datetime.timezone(datetime.timedelta("
      ++ (if minutes < 0 then "days=-1, " else "") ++ "seconds=" ++ seconds ++ "))"

def display : Moment → String
  | date d => tupled "datetime.date" d.numbers []
  | clock c => tupled "datetime.time" c.numbers []
  | dated d c offset => tupled "datetime.datetime" (d.numbers ++ c.numbers)
      (offset.map fun minutes => "tzinfo=" ++ offsetDisplay minutes).toList

end Moment

end VCardKit.Toml
