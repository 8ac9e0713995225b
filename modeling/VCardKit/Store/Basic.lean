/-
  The store of the objects that are shared: parameter containers, properties, cards, registries and
  raised failures. A property in the store refers to its parameter container, so that several
  properties may share one.
-/
import VCardKit.Registry
import VCardKit.Store.Containers

namespace VCardKit

/-- A property whose parameters stand in a store. -/
structure StoredProperty where
  typeName : String
  group : Option String
  parameters : ParametersId
  content : AnyContent
  deriving Inhabited

/-- A failure that was raised, with the property that raised it. -/
structure RaisedFailure where
  failure : Failure
  origin : Option PropertyId

instance : Inhabited RaisedFailure := ⟨.skip none, none⟩

/-- All shared objects. -/
structure Store where
  parameters : Containers := {}
  properties : Table StoredProperty := {}
  cards : Table Card := {}
  registries : Table (Registry Kind) := {}
  failures : Table RaisedFailure := {}
  deriving Inhabited

namespace Store

/-- The store that holds the registry of the standard properties and nothing else. -/
def initial : Store := { registries := Table.add {} Registry.standard }

/-- The registry of the standard properties. -/
def standardRegistry : RegistryId := ⟨0⟩

/-! ## Looking -/

def parametersAt (s : Store) (id : ParametersId) : Parameters := s.parameters.get id.index

def storedAt (s : Store) (id : PropertyId) : StoredProperty := s.properties.get id.index

def cardAt (s : Store) (id : CardId) : Card := s.cards.get id.index

def registryAt (s : Store) (id : RegistryId) : Registry Kind := s.registries.get id.index

def failureAt (s : Store) (id : FailureId) : Failure := (s.failures.get id.index).failure

/-- A property with the parameters that its container holds at present. -/
def propertyAt (s : Store) (id : PropertyId) : AnyProperty :=
  let p := s.storedAt id
  { typeName := p.typeName, group := p.group, parameters := s.parametersAt p.parameters
    content := p.content }

/-! ## Adding -/

def addParameters (s : Store) (p : Parameters) : ParametersId × Store :=
  (⟨s.parameters.size⟩, { s with parameters := s.parameters.add p })

/-- Adds a property whose parameters are in the store. -/
def addStored (s : Store) (p : StoredProperty) : PropertyId × Store :=
  (⟨s.properties.size⟩, { s with properties := s.properties.add p })

/-- Adds a property with the given container. -/
def addPropertyWith (s : Store) (p : AnyProperty) (parameters : ParametersId) :
    PropertyId × Store :=
  s.addStored ⟨p.typeName, p.group, parameters, p.content⟩

/-- Adds a property with a container of its own. -/
def addProperty (s : Store) (p : AnyProperty) : PropertyId × Store :=
  let (parameters, s) := s.addParameters p.parameters
  s.addPropertyWith p parameters

def addCard (s : Store) (c : Card) : CardId × Store :=
  (⟨s.cards.size⟩, { s with cards := s.cards.add c })

def addRegistry (s : Store) (r : Registry Kind) : RegistryId × Store :=
  (⟨s.registries.size⟩, { s with registries := s.registries.add r })

def addFailure (s : Store) (f : RaisedFailure) : FailureId × Store :=
  (⟨s.failures.size⟩, { s with failures := s.failures.add f })

/-! ## Containers -/

/-- Gives a container other parameters. -/
def setParameters (s : Store) (id : ParametersId) (p : Parameters) : Store :=
  { s with parameters := s.parameters.set id.index p }

/-- Edits a container where it stands. -/
def editParameters (s : Store) (id : ParametersId) (edits : List Parameters.Edit) : Store :=
  { s with parameters := s.parameters.editAll id.index edits }

/-- Changes a container as asked, unless the change is refused. -/
def changeParameters (s : Store) (id : ParametersId) (c : Parameters.Change) :
    Attempt ParameterError Store Parameters.Answer :=
  (s.parameters.change id.index c).mapState fun parameters => { s with parameters }

def clearParameters (s : Store) (id : ParametersId) : Store :=
  { s with parameters := s.parameters.clear id.index }

/-- Adds a copy of a container. -/
def copyParameters (s : Store) (id : ParametersId) : ParametersId × Store :=
  (⟨s.parameters.size⟩, { s with parameters := s.parameters.copy id.index })

/-! ## Changing -/

def setStored (s : Store) (id : PropertyId) (p : StoredProperty) : Store :=
  { s with properties := s.properties.set id.index p }

def setCard (s : Store) (id : CardId) (c : Card) : Store :=
  { s with cards := s.cards.set id.index c }

def setRegistry (s : Store) (id : RegistryId) (r : Registry Kind) : Store :=
  { s with registries := s.registries.set id.index r }

/-- Gives a property another container. -/
def install (s : Store) (id : PropertyId) (parameters : ParametersId) : Store :=
  s.setStored id { s.storedAt id with parameters }

/-- Gives a property another content. -/
def setContent (s : Store) (id : PropertyId) (content : AnyContent) : Store :=
  s.setStored id { s.storedAt id with content }

end Store

end VCardKit
