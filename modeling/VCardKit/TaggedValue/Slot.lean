/-
  The value slots of a property array in JSON. Writing makes lists of one value plain; reading
  guesses the shape: a list in the first slot makes a structured value, more than one slot a flat
  list, anything else a single value.
-/
import VCardKit.Decimal.Layout
import VCardKit.TaggedValue.Basic
import VCardKit.Text.Quoted

namespace VCardKit

/-- A JSON value in a property array. -/
inductive Slot where
  | null
  | text (value : String)
  | bool (value : Bool)
  | int (value : Int)
  | float (value : Float)
  | list (items : List Slot)
  deriving Inhabited

namespace Slot

/-! ## Slots as text -/

mutual

/-- A slot inside a list that stands where one text is expected. -/
def display : Slot → String
  | null => "None"
  | text value => Text.quoted value
  | bool value => if value then "True" else "False"
  | int value => toString value
  | float value => Decimal.floatText value
  | list items => Text.bracketed (displayAll items)

def displayAll : List Slot → List String
  | [] => []
  | s :: rest => s.display :: displayAll rest

end

/-- A slot as one text. -/
def scalar : Slot → String
  | null => ""
  | text value => value
  | bool value => if value then "true" else "false"
  | s => s.display

/-- The values of one component. -/
def component : Slot → List String
  | list items => items.map scalar
  | s => [s.scalar]

end Slot

/-! ## Writing and reading -/

/-- A component of exactly one value is written without a list around it. -/
def Slot.ofComponent : List String → Slot
  | [value] => .text value
  | values => .list (values.map .text)

/-- The value slots of a shape. -/
def Shape.toSlots : Shape → List Slot
  | single none => [.null]
  | single (some value) => [.text value]
  | multi values => values.map .text
  | structured components => [.list (components.map .ofComponent)]

/-- The shape that value slots stand for. -/
def Shape.ofSlots : List Slot → Shape
  | [] => single none
  | .list items :: _ => structured (items.map Slot.component)
  | [.null] => single none
  | [s] => single (some s.scalar)
  | slots => multi (slots.map Slot.scalar)

namespace TaggedValue

def toSlots (v : TaggedValue) : List Slot := v.shape.toSlots

def ofSlots (dataType : Option DataType) (slots : List Slot) : TaggedValue :=
  ⟨dataType, .ofSlots slots⟩

end TaggedValue

end VCardKit
