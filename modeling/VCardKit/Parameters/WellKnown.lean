/-
  Parameters with a meaning of their own. Reading is lenient: a rank that is no number is no rank.
  Writing is strict: a number out of range is refused, and so is one with too many digits to be
  written.
-/
import VCardKit.DataType
import VCardKit.Decimal.Integer
import VCardKit.Parameters.Basic

namespace VCardKit

/-- Why parameters refuse an operation. -/
inductive ParameterError where
  /-- A value is missing. -/
  | noValue (name : String)
  /-- A preference outside 1 to 100. -/
  | prefOutOfRange (pref : Int)
  /-- A position that is not greater than zero. -/
  | indexNotPositive (index : Int)
  /-- A number in a property identifier with too many digits. -/
  | tooManyDigits (count : Nat)
  /-- A number with too many digits to be written. -/
  | unwritable
  deriving DecidableEq, Repr

def ParameterError.message : ParameterError → String
  | noValue name => "Parameter " ++ name ++ " cannot have a None value"
  | prefOutOfRange n => "PREF must be between 1 and 100, got " ++ toString n
  | indexNotPositive n => "INDEX must be greater than zero, got " ++ toString n
  | tooManyDigits n => Decimal.limitMessage n
  | unwritable => Decimal.writingLimitMessage

namespace Parameters

/-- A number as text. -/
def numberText (n : Int) : Except ParameterError String :=
  if Decimal.isWritable n then .ok (toString n) else .error .unwritable

/-! ## Ranks -/

/-- The rank among properties of one type; the lowest is the most preferred. -/
def pref? (p : Parameters) : Option Int := (p.first? "PREF").bind Decimal.integer?

/-- Ranks lie between 1 and 100. -/
def isPref (n : Int) : Bool := 1 ≤ n && n ≤ 100

/-- The position among properties of one type. -/
def index? (p : Parameters) : Option Int := (p.first? "INDEX").bind Decimal.integer?

/-- Positions are greater than zero. -/
def isIndex (n : Int) : Bool := 0 < n

/-- A parameter that is one whole number in a range. -/
inductive RankField where
  | pref
  | index
  deriving DecidableEq, Repr

namespace RankField

def name : RankField → String
  | pref => "PREF"
  | index => "INDEX"

/-- The numbers in range. -/
def accepts : RankField → Int → Bool
  | pref, n => isPref n
  | index, n => isIndex n

/-- The refusal of a number out of range. -/
def refusal : RankField → Int → ParameterError
  | pref, n => .prefOutOfRange n
  | index, n => .indexNotPositive n

/-- The text of a number in range. The text is asked for in either case, since a refusal shows
it. -/
def text (field : RankField) (n : Int) : Except ParameterError String := do
  let text ← numberText n
  if field.accepts n then return text else throw (field.refusal n)

end RankField

/-! ## Texts and types -/

/-- The declared data type of the value. -/
def dataType? (p : Parameters) : Option DataType := (p.first? "VALUE").bind DataType.ofName?

/-- A parameter that is one plain text. -/
inductive TextField where
  | language
  | encoding
  | charset
  | altId
  deriving DecidableEq, Repr

def TextField.name : TextField → String
  | language => "LANGUAGE"
  | encoding => "ENCODING"
  | charset => "CHARSET"
  | altId => "ALTID"

def text? (p : Parameters) (field : TextField) : Option String := p.first? field.name

/-- The kinds of the property, such as home or work. -/
def types (p : Parameters) : List String := p.get "TYPE"

/-! ## Property identifiers -/

/-- The digits of a property identifier: those of the local number, and those of the source number
behind a point if there is one. One line feed may stand at the end. -/
def pidDigits? (value : String) : Option (List Nat × Option (List Nat)) :=
  let cs := value.toList
  let cs := if cs.getLast? = some '\n' then cs.dropLast else cs
  let digits := (cs.takeWhile Text.isDigit).filterMap Text.digitValue?
  if digits.isEmpty then none
  else
    match cs.dropWhile Text.isDigit with
    | [] => some (digits, none)
    | '.' :: rest =>
      if !rest.isEmpty && rest.all Text.isDigit then
        some (digits, some (rest.filterMap Text.digitValue?))
      else none
    | _ => none

/-- The number with the given digits, unless there are too many. -/
def pidNumber (digits : List Nat) : Except ParameterError Nat :=
  if digits.length ≤ Decimal.digitLimit then .ok (Decimal.ofDigits digits)
  else .error (.tooManyDigits digits.length)

/-- The numbers of a property identifier, given their digits. -/
def pidNumbers (digits : List Nat × Option (List Nat)) :
    Except ParameterError (Nat × Option Nat) := do
  let localId ← pidNumber digits.1
  match digits.2 with
  | none => return (localId, none)
  | some source => return (localId, some (← pidNumber source))

/-- The property identifiers; malformed ones are left out. -/
def pids (p : Parameters) : Except ParameterError (List (Nat × Option Nat)) :=
  ((p.get "PID").filterMap pidDigits?).mapM pidNumbers

/-- A property identifier as text. -/
def pidText (localId : Int) (source : Option Int) : Except ParameterError String := do
  let text ← numberText localId
  match source with
  | none => return text
  | some ref => return text ++ "." ++ (← numberText ref)

end Parameters

end VCardKit
