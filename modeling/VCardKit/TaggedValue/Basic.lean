/-
  Property values between the formats. A tagged value carries the declared data type and one of
  three shapes: a single text that may be missing, a flat list, or a list of components that each
  hold a list. Every shape can be viewed as each of the three.
-/
import VCardKit.DataType
import VCardKit.Text.Delimited

namespace VCardKit

/-- The shape of a property value. -/
inductive Shape where
  | single (value : Option String)
  | multi (values : List String)
  | structured (components : List (List String))
  deriving DecidableEq, Repr

/-- A property value with its declared data type. -/
structure TaggedValue where
  dataType : Option DataType
  shape : Shape
  deriving DecidableEq, Repr

namespace Shape

/-! ## Views -/

/-- The first value, or the empty text. -/
def asSingle : Shape → String
  | single value => value.getD ""
  | multi values => values.headD ""
  | structured components => (components.headD []).headD ""

/-- All values in a row. -/
def asMulti : Shape → List String
  | single value => value.toList
  | multi values => values
  | structured components => components.flatten

/-- The values by component. -/
def asStructured : Shape → List (List String)
  | single value => value.toList.map ([·])
  | multi values => values.map ([·])
  | structured components => components

theorem asMulti_eq_flatten (s : Shape) : s.asMulti = s.asStructured.flatten := by
  cases s with
  | single value => cases value <;> rfl
  | multi values =>
    show values = (values.map ([·])).flatten
    induction values with
    | nil => rfl
    | cons v vs ih => simp only [List.map_cons, List.flatten_cons, List.singleton_append, ← ih]
  | structured components => rfl

/-! ## The text form -/

/-- One component in a content line: its escaped values with commas between them. -/
def componentText (values : List String) : String := Text.joinEscaped "," values

/-- The value as it stands in a content line: components between semicolons, values between
commas. A single value stands as it is, for it is escaped already. -/
def toText : Shape → String
  | single value => value.getD ""
  | multi values => componentText values
  | structured components => Text.join componentText ";" components

end Shape

namespace TaggedValue

def asSingle (v : TaggedValue) : String := v.shape.asSingle

def asMulti (v : TaggedValue) : List String := v.shape.asMulti

def asStructured (v : TaggedValue) : List (List String) := v.shape.asStructured

def toText (v : TaggedValue) : String := v.shape.toText

/-- A single text. -/
def text (value : String) : TaggedValue := ⟨some .text, .single (some value)⟩

end TaggedValue

end VCardKit
