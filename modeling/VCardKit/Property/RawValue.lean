/-
  Properties of a type that nobody registered. The value is kept as it stands in the document; in
  XML it is the text of the first child, whatever its name.
-/
import VCardKit.Property.Basic

namespace VCardKit

/-- A value kept verbatim, which may be missing. -/
structure RawValue where
  value : Option String := none
  deriving DecidableEq, Repr

namespace RawValue

def readXml (p : Property RawValue) (element : Xml.PropertyElement) (_ : Mode) :
    Attempt Failure RawValue (List String) :=
  match element.firstValue? with
  | none => .failed (.missing []) p.content
  | some (_, value) => .done [] ⟨some value⟩

instance : Content RawValue where
  writeText p _ _ := .done (p.content.value.getD "") p.content
  readText _ value _ _ := .done [] ⟨some value⟩
  readXml := readXml

/-- The empty property with a name, which is stored in upper case. -/
def property (name : String) : Property RawValue :=
  { typeName := Text.upper name, content := {} }

end RawValue

end VCardKit
