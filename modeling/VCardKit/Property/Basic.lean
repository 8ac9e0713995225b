/-
  Properties and their hooks. A property is a name, a group, parameters and a content; what the
  content does when it is written, read and checked is given by hooks, and most hooks have a
  default. The operations on properties own what is common to all types: they install the
  parameters that were read, copy the parameters that are written, and put the findings of a
  validation in order. A failed operation leaves a property behind as well as a failure.
-/
import VCardKit.Card
import VCardKit.Failure
import VCardKit.Html.Page
import VCardKit.Mode
import VCardKit.Parameters.Change
import VCardKit.Parameters.Validation
import VCardKit.TaggedValue.Basic
import VCardKit.Xml.Element

namespace VCardKit

/-- A property of a card. -/
structure Property (V : Type) where
  typeName : String
  group : Option String := none
  parameters : Parameters := .empty
  content : V

/-! ## Defaults -/

namespace Fallback

variable {V : Type}

/-- Writes the text form as a child of unknown type. Nothing is appended if there is none. -/
def writeXml (writeText : Property V → Version → Mode → Attempt Failure V String)
    (p : Property V) (element : Xml.PropertyElement) (mode : Mode) :
    Attempt Failure (V × Xml.Element) Unit :=
  let a := writeText p element.version mode
  match a.result with
  | .ok text => .done () (a.state, (element.append "unknown" (some text)).element)
  | .error failure => .failed failure (a.state, element.element)

/-- Writes the text form as a single value of the data type that the parameters declare. -/
def writeJson (writeText : Property V → Version → Mode → Attempt Failure V String)
    (p : Property V) (version : Version) : Attempt Failure V TaggedValue :=
  let a := writeText p version .rfc
  ⟨a.result.map fun text => ⟨p.parameters.dataType?, .single (some text)⟩, a.state⟩

/-- Refuses XML. -/
def readXml (p : Property V) (_ : Xml.PropertyElement) (_ : Mode) :
    Attempt Failure V (List String) :=
  .failed (.unsupportedFormat p.typeName "xCards") p.content

/-- Reads the value of a node of a web page as text of version 3.0. -/
def readHtml (readText : Property V → String → Version → Mode → Attempt Failure V (List String))
    (p : Property V) (node : Html.PageNode) : Attempt Failure V (List String) :=
  readText p node.value .v3_0 .rfc

/-- Reads the text form of a tagged value. -/
def readJson (readText : Property V → String → Version → Mode → Attempt Failure V (List String))
    (p : Property V) (value : TaggedValue) (version : Version) : Attempt Failure V (List String) :=
  readText p value.toText version .rfc

end Fallback

/-! ## Hooks -/

/-- An XML name: a namespace and a local name. -/
abbrev QualifiedName := String × String

/-- The hooks of a content type. Readers give the warnings that they noticed. -/
class Content (V : Type) where
  /-- Writes the text form. -/
  writeText : Property V → Version → Mode → Attempt Failure V String
  /-- Reads the text form. -/
  readText : Property V → String → Version → Mode → Attempt Failure V (List String)
  /-- Appends to the XML element of the property. -/
  writeXml : Property V → Xml.PropertyElement → Mode → Attempt Failure (V × Xml.Element) Unit :=
    Fallback.writeXml writeText
  /-- Reads the XML element of the property. -/
  readXml : Property V → Xml.PropertyElement → Mode → Attempt Failure V (List String) :=
    Fallback.readXml
  /-- Writes the tagged value for JSON. -/
  writeJson : Property V → Version → Attempt Failure V TaggedValue := Fallback.writeJson writeText
  /-- Reads a tagged value from JSON. -/
  readJson : Property V → TaggedValue → Version → Attempt Failure V (List String) :=
    Fallback.readJson readText
  /-- Reads a node of a web page. -/
  readHtml : Property V → Html.PageNode → Attempt Failure V (List String) :=
    Fallback.readHtml readText
  /-- The edits of the copy of the parameters that is written, given what the copy holds. -/
  adjust : Property V → Parameters → Version → Mode → Option Card → List Parameters.Edit :=
    fun _ _ _ _ _ => []
  /-- The findings of the rules of this type. -/
  findings : Property V → Version → Option Card → List Warning := fun _ _ _ => []
  /-- The versions that define the type. -/
  isSupported : V → Version → Bool := fun _ _ => true
  /-- The XML name, if it is not the default one. -/
  qualifiedName? : V → Option QualifiedName := fun _ => none

/-! ## Operations -/

namespace Property

variable {V : Type}

/-- The property with another content. -/
def withContent {W : Type} (p : Property V) (content : W) : Property W :=
  { typeName := p.typeName, group := p.group, parameters := p.parameters, content }

/-- The XML name that a type has by default. -/
def defaultQualifiedName (p : Property V) : QualifiedName :=
  (xCardNamespace, Text.lower p.typeName)

variable [Content V]

def isSupported (p : Property V) (version : Version) : Bool := Content.isSupported p.content version

/-- The warning that the version does not define the type. -/
def supportWarnings (p : Property V) (version : Version) : List Warning :=
  if p.isSupported version then []
  else [⟨"Property is not supported by version " ++ version.text ++
    ".  Supported versions are: " ++ Version.listText p.isSupported, .unsupportedVersion⟩]

/-- All findings about a property: about the version, the parameters and the value, in this
order. -/
def validate (p : Property V) (version : Version) (card : Option Card) : List Warning :=
  p.supportWarnings version ++ p.parameters.validate version ++ Content.findings p version card

/-- The property with the content that an operation left behind. -/
def attempt {α : Type} (p : Property V) (a : Attempt Failure V α) :
    Attempt Failure (Property V) α :=
  a.mapState fun content => { p with content }

/-- Writes the text form. -/
def writeText (p : Property V) (version : Version) (mode : Mode) :
    Attempt Failure (Property V) String :=
  p.attempt (Content.writeText p version mode)

/-- Appends the value to an XML element, which is left behind too. A comment takes no value. -/
def writeXml (p : Property V) (root : Xml.Root) (version : Version) (mode : Mode) :
    Attempt Failure (Property V × Xml.Root) Unit :=
  match root with
  | .comment _ => .failed .noElement (p, root)
  | .element element => (Content.writeXml p ⟨element, version⟩ mode).mapState
      fun (content, element) => ({ p with content }, .element element)

/-- Writes the tagged value. -/
def writeJson (p : Property V) (version : Version) : Attempt Failure (Property V) TaggedValue :=
  p.attempt (Content.writeJson p version)

/-- The parameters to write: a copy of the own ones, with the edits of the hook. -/
def writeParameters (p : Property V) (version : Version) (mode : Mode) (card : Option Card) :
    Parameters :=
  (Content.adjust p p.parameters version mode card).foldl Parameters.Edit.apply p.parameters

/-- Installs parameters and reads the text form. -/
def readText (p : Property V) (parameters : Parameters) (value : String) (version : Version)
    (mode : Mode) : Attempt Failure (Property V) (List String) :=
  let p := { p with parameters }
  p.attempt (Content.readText p value version mode)

/-- Installs parameters and reads an XML element. -/
def readXml (p : Property V) (parameters : Parameters) (root : Xml.Root) (version : Version)
    (mode : Mode) : Attempt Failure (Property V) (List String) :=
  let p := { p with parameters }
  match root with
  | .comment _ => .failed .noElement p
  | .element element => p.attempt (Content.readXml p ⟨element, version⟩ mode)

/-- Installs parameters and reads a tagged value. -/
def readJson (p : Property V) (parameters : Parameters) (value : TaggedValue) (version : Version) :
    Attempt Failure (Property V) (List String) :=
  let p := { p with parameters }
  p.attempt (Content.readJson p value version)

/-- Reads a node of a web page; the parameters stay. -/
def readHtml (p : Property V) (node : Html.PageNode) : Attempt Failure (Property V) (List String) :=
  p.attempt (Content.readHtml p node)

end Property

end VCardKit
