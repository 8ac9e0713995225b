/-
  Reading one property of a document into a store. The new property gets the given parameter
  container itself; one read from HTML gets a container of its own.
-/
import VCardKit.Reading
import VCardKit.Store.Property

namespace VCardKit

def Outcome.resolve (id : PropertyId) : Outcome → Outcome
  | embedded e => .embedded (e.resolve id)
  | o => o

namespace Store

/-- What came of reading a new property. -/
abbrev ReadResult := Except Failure (PropertyId × Outcome)

/-- Adds the property that a reading left behind. A failure adds nothing. -/
def adopt (s : Store) (parameters : ParametersId) (a : Attempt Failure AnyProperty Outcome) :
    ReadResult × Store :=
  match a.result with
  | .error failure => (.error failure, s)
  | .ok outcome =>
    let (id, s) := s.addPropertyWith a.state parameters
    (.ok (id, outcome.resolve id), s)

def readNewText (s : Store) (registry : RegistryId) (config : Config) (name : String)
    (parameters : ParametersId) (value : String) (version : Option Version)
    (group : Option String) : ReadResult × Store :=
  s.adopt parameters (Reading.ofText (s.registryAt registry) config name
    (s.parametersAt parameters) value version group)

def readNewXml (s : Store) (registry : RegistryId) (config : Config) (root : Xml.Root)
    (parameters : ParametersId) (version : Version) : ReadResult × Store :=
  s.adopt parameters (Reading.ofXml (s.registryAt registry) config root
    (s.parametersAt parameters) version)

def readNewJson (s : Store) (registry : RegistryId) (name : String) (parameters : ParametersId)
    (value : TaggedValue) (version : Version) : ReadResult × Store :=
  s.adopt parameters (Reading.ofJson (s.registryAt registry) name (s.parametersAt parameters)
    value version)

def readNewHtml (s : Store) (registry : RegistryId) (name : String)
    (node : Html.PageNode) : ReadResult × Store :=
  let (parameters, s) := s.addParameters .empty
  s.adopt parameters (Reading.ofHtml (s.registryAt registry) name node)

end Store

end VCardKit
