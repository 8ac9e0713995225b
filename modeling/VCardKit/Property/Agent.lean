/-
  Someone who acts for a card's subject: a link, or a card of its own. A nested card is no text, so
  writing and reading it stop with the card, or with the property that takes it. The data type that
  the parameters declare tells the two forms apart. Versions 2.1 and 3.0 only, and neither XML nor
  JSON.
-/
import VCardKit.Property.Basic

namespace VCardKit

/-- A link, a nested card, or nothing yet. -/
structure Agent where
  url : Option String := none
  card : Option CardId := none
  deriving DecidableEq, Repr

namespace Agent

/-- The agent with a nested card, which replaces a link. -/
def attach (_ : Agent) (card : CardId) : Agent := ⟨none, some card⟩

def absent : String := "Property has neither a URL nor an embedded vCard."

/-- The data type of a link in a version. -/
def linkType : Version → DataType
  | .v2_1 => .url
  | _ => .uri

/-- Declares the data type of a link, or none. -/
def adjust (p : Property Agent) (_ : Parameters) (version : Version) (_ : Mode)
    (_ : Option Card) : List Parameters.Edit :=
  [.ofDataType (if p.content.url.isSome then some (linkType version) else none)]

def writeText (p : Property Agent) (_ : Version) (_ : Mode) : Attempt Failure Agent String :=
  match p.content.url, p.content.card with
  | some url, _ => .done (Text.escape url) p.content
  | none, some card => .failed (.embedded ⟨some card, none⟩) p.content
  | none, none => .failed (.skip (some absent)) p.content

/-- Whether the parameters declare that the value is a link. -/
def declaresLink (parameters : Parameters) : Bool :=
  parameters.dataType? == some .url || parameters.dataType? == some .uri

def readText (p : Property Agent) (value : String) (_ : Version) (_ : Mode) :
    Attempt Failure Agent (List String) :=
  if declaresLink p.parameters then
    .done [] { p.content with url := some (Text.unescape value) }
  else .failed (.embedded ⟨none, some .reader⟩) p.content

/-- Reads a link, or the text of an element without one. An element of the class `vcard` is a card;
a comment has no class to tell. -/
def readHtml (p : Property Agent) (node : Html.PageNode) : Attempt Failure Agent (List String) :=
  match node.root with
  | .comment _ => .failed .noAttributes p.content
  | .element e =>
    if e.hasClass "vcard" then .failed (.embedded ⟨none, some .reader⟩) p.content
    else
      match node.resolve (e.attr "href") with
      | .error error => .failed (.badLink error) p.content
      | .ok link =>
        .done [] { p.content with url := some (if link = "" then e.value else link) }

def findings (p : Property Agent) (_ : Version) (_ : Option Card) : List Warning :=
  if p.content.url.isNone && p.content.card.isNone then [.empty absent] else []

instance : Content Agent where
  writeText := writeText
  readText := readText
  writeXml p element _ :=
    .failed (.skip (some "AGENT is not part of the xCard vocabulary.")) (p.content, element.element)
  writeJson p _ := .failed (.skip (some "AGENT is not part of the jCard vocabulary.")) p.content
  readHtml := readHtml
  adjust := adjust
  findings := findings
  isSupported _ version := version != .v4_0

end Agent

end VCardKit
