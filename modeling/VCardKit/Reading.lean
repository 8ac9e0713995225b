/-
  Reading one property of a document: a new property is made by a registry, reads its value, and the
  outcome says what became of it. Failures that a reader of documents handles are outcomes; the
  others reach the caller.
-/
import VCardKit.Mode
import VCardKit.Registry

namespace VCardKit

/-- What became of a property. -/
inductive Outcome where
  | ok (warnings : List String)
  | skip (reason : Option String)
  | cannotParse (reason : String)
  | embedded (value : Embedded)
  deriving DecidableEq, Repr

namespace Outcome

def isOk : Outcome → Bool
  | ok _ => true
  | _ => false

def warnings : Outcome → List String
  | ok warnings => warnings
  | _ => []

def reason? : Outcome → Option String
  | skip reason => reason
  | cannotParse reason => some reason
  | _ => none

def embedded? : Outcome → Option Embedded
  | embedded value => some value
  | _ => none

/-- The outcome of a reading, unless it failed in a way that no reader of documents handles. -/
def ofResult : Except Failure (List String) → Except Failure Outcome
  | .ok warnings => .ok (ok warnings)
  | .error (.skip reason) => .ok (skip reason)
  | .error (.cannotParse reason) => .ok (cannotParse reason)
  | .error (.embedded value) => .ok (embedded value)
  | .error failure => .error failure

end Outcome

namespace Reading

/-- The outcome of an attempt, with the property that it left behind. -/
def capture (a : Attempt Failure AnyProperty (List String)) : Attempt Failure AnyProperty Outcome :=
  ⟨Outcome.ofResult a.result, a.state⟩

/-- Reads a content line. -/
def ofText (registry : Registry Kind) (config : Config) (name : String) (parameters : Parameters)
    (value : String) (version : Option Version) (group : Option String) :
    Attempt Failure AnyProperty Outcome :=
  capture (Property.readText { registry.create name with group } parameters value
    (version.getD config.defaultVersion) config.mode)

/-- Reads an XML element. -/
def ofXml (registry : Registry Kind) (config : Config) (root : Xml.Root)
    (parameters : Parameters) (version : Version) : Attempt Failure AnyProperty Outcome :=
  let (ns, localName) := Xml.splitTag root.tag
  capture (Property.readXml (registry.createForXml ns localName) parameters root version
    config.mode)

/-- Reads a tagged value of a JSON document. -/
def ofJson (registry : Registry Kind) (name : String) (parameters : Parameters)
    (value : TaggedValue) (version : Version) : Attempt Failure AnyProperty Outcome :=
  capture (Property.readJson (registry.create name) parameters value version)

/-- Reads a node of a web page. -/
def ofHtml (registry : Registry Kind) (name : String) (node : Html.PageNode) :
    Attempt Failure AnyProperty Outcome :=
  capture (Property.readHtml (registry.create name) node)

end Reading

end VCardKit
