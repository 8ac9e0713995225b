/-
  The categories of a card's subject: a list of texts. The text form trims them and drops the blank
  ones; the other forms keep them as they are.
-/
import VCardKit.Property.Basic

namespace VCardKit

/-- A list of categories. -/
structure Categories where
  values : List String := []
  deriving DecidableEq, Repr

namespace Categories

/-- The list with a category at its end. -/
def add (c : Categories) (value : String) : Categories := ⟨c.values ++ [value]⟩

/-- The categories in a text form. -/
def ofText (value : String) : Categories :=
  ⟨((Text.split value ",").map Text.strip).filter (· != "")⟩

def readXml (p : Property Categories) (element : Xml.PropertyElement) (_ : Mode) :
    Attempt Failure Categories (List String) :=
  match element.all "text" with
  | [] => .failed (.missing [.ofType (some .text)]) p.content
  | values => .done [] ⟨values⟩

def findings (p : Property Categories) (_ : Version) (_ : Option Card) : List Warning :=
  if p.content.values.isEmpty then [.empty "Property has no values."] else []

instance : Content Categories where
  writeText p _ _ := .done (Text.joinEscaped "," p.content.values) p.content
  readText _ value _ _ := .done [] (ofText value)
  writeXml p element _ :=
    .done () (p.content, (element.appendAll "text" p.content.values).element)
  readXml := readXml
  writeJson p _ := .done ⟨some .text, .multi p.content.values⟩ p.content
  readJson _ value _ := .done [] ⟨value.asMulti⟩
  readHtml _ node := .done [] ⟨[node.value]⟩
  findings := findings

end Categories

end VCardKit
