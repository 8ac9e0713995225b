/-
  Properties whose value is one text: the display name, a note, a title.
-/
import VCardKit.Property.Basic

namespace VCardKit

/-- One text, which may be missing. -/
structure TextValue where
  value : Option String := none
  deriving DecidableEq, Repr

namespace TextValue

/-- The text; the empty text if it is missing. -/
def text (c : TextValue) : String := c.value.getD ""

def readXml (p : Property TextValue) (element : Xml.PropertyElement) (_ : Mode) :
    Attempt Failure TextValue (List String) :=
  match element.first? ["text"] with
  | some value => .done [] ⟨some value⟩
  | none => .failed (.missing [.ofType (some .text)]) p.content

/-- The text of a tagged value: the single value, or all values with commas between them. -/
def ofTagged (value : TaggedValue) : String :=
  match value.shape with
  | .single v => v.getD ""
  | shape => ",".intercalate shape.asMulti

def findings (p : Property TextValue) (_ : Version) (_ : Option Card) : List Warning :=
  if p.content.value.isNone then [.empty "Property has no value."] else []

instance : Content TextValue where
  writeText p _ _ := .done (Text.escape p.content.text) p.content
  readText _ value _ _ := .done [] ⟨some (Text.unescape value)⟩
  writeXml p element _ :=
    .done () (p.content, (element.append "text" (some p.content.text)).element)
  readXml := readXml
  writeJson p _ := .done (.text p.content.text) p.content
  readJson _ value _ := .done [] ⟨some (ofTagged value)⟩
  readHtml _ node := .done [] ⟨some node.value⟩
  findings := findings

end TextValue

end VCardKit
