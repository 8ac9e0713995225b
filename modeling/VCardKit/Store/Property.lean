/-
  Operations on properties and cards in a store. Those on properties are the operations on
  properties, with the state that an operation leaves behind written back. A failure that asks for a
  nested card names the property that takes it. A card gives its properties by kind, and the most
  preferred one of a kind.
-/
import VCardKit.Property.Part
import VCardKit.Store.Basic

namespace VCardKit

/-- The receiver of a nested card, where the given property is the one that is read. -/
def Receiver.resolve (id : PropertyId) : Receiver → Receiver
  | reader => .property id
  | r => r

def Embedded.resolve (id : PropertyId) (e : Embedded) : Embedded :=
  { e with receiver := e.receiver.map (Receiver.resolve id) }

def Failure.resolve (id : PropertyId) : Failure → Failure
  | embedded e => .embedded (e.resolve id)
  | f => f

namespace Store

variable {α : Type}

/-- The outcome of an operation on a property, with the content that it left behind in the
store. -/
def conclude (s : Store) (id : PropertyId) (a : Attempt Failure AnyProperty α) :
    Except Failure α × Store :=
  (a.result.mapError (Failure.resolve id), s.setContent id a.state.content)

/-! ## Writing -/

def writeText (s : Store) (id : PropertyId) (version : Version) (mode : Mode) :
    Except Failure String × Store :=
  s.conclude id ((s.propertyAt id).writeText version mode)

/-- Writes into an XML element, which is given back in either case. -/
def writeXml (s : Store) (id : PropertyId) (root : Xml.Root) (version : Version)
    (mode : Mode) : Except Failure Unit × Xml.Root × Store :=
  let a := (s.propertyAt id).writeXml root version mode
  let (result, s) := s.conclude id (a.mapState (·.1))
  (result, a.state.2, s)

def writeJson (s : Store) (id : PropertyId) (version : Version) :
    Except Failure TaggedValue × Store :=
  s.conclude id ((s.propertyAt id).writeJson version)

/-- A copy of a container with the edits of a hook. The hook is given the copy, and its edits are
made where the copy stands. -/
def writeParametersBy (s : Store) (own : ParametersId) (hook : Parameters → List Parameters.Edit) :
    ParametersId × Store :=
  let (copy, s) := s.copyParameters own
  (copy, s.editParameters copy (hook (s.parametersAt copy)))

/-- The hook of a property that edits the parameters to be written. -/
def parametersHook (s : Store) (id : PropertyId) (version : Version) (mode : Mode)
    (card : Option CardId) (copy : Parameters) : List Parameters.Edit :=
  Content.adjust (s.propertyAt id) copy version mode (card.map s.cardAt)

/-- Hands out the parameters to be written. -/
def writeParameters (s : Store) (id : PropertyId) (version : Version) (mode : Mode)
    (card : Option CardId) : ParametersId × Store :=
  s.writeParametersBy (s.storedAt id).parameters (s.parametersHook id version mode card)

/-! ## Reading -/

def readText (s : Store) (id : PropertyId) (parameters : ParametersId) (value : String)
    (version : Version) (mode : Mode) : Except Failure (List String) × Store :=
  let s := s.install id parameters
  s.conclude id ((s.propertyAt id).readText (s.parametersAt parameters) value version mode)

def readXml (s : Store) (id : PropertyId) (parameters : ParametersId) (root : Xml.Root)
    (version : Version) (mode : Mode) : Except Failure (List String) × Store :=
  let s := s.install id parameters
  s.conclude id ((s.propertyAt id).readXml (s.parametersAt parameters) root version mode)

def readJson (s : Store) (id : PropertyId) (parameters : ParametersId) (value : TaggedValue)
    (version : Version) : Except Failure (List String) × Store :=
  let s := s.install id parameters
  s.conclude id ((s.propertyAt id).readJson (s.parametersAt parameters) value version)

def readHtml (s : Store) (id : PropertyId) (node : Html.PageNode) :
    Except Failure (List String) × Store :=
  s.conclude id ((s.propertyAt id).readHtml node)

/-! ## Checking and comparing -/

def validate (s : Store) (id : PropertyId) (version : Version) (card : Option CardId) :
    List Warning :=
  (s.propertyAt id).validate version (card.map s.cardAt)

def preference (s : Store) (id : PropertyId) : Preference := (s.propertyAt id).preference

/-! ## Nested cards -/

/-- Gives a nested card to a property; only agents take one. -/
def attachCard (s : Store) (id : PropertyId) (card : CardId) : Store :=
  match (s.storedAt id).content.attach? card with
  | some content => s.setContent id content
  | none => s

/-- Gives a nested card to the property that asked for it, if any did. -/
def inject (s : Store) (e : Embedded) (card : CardId) : Store :=
  match e.receiver with
  | some (.property id) => s.attachCard id card
  | _ => s

/-- The failure in the store for one that a property raised. A property that was given its failure
raises the same one each time. -/
def raise (s : Store) (origin : Option PropertyId) (failure : Failure) : FailureId × Store :=
  let given :=
    match origin.map fun id => (s.storedAt id).content with
    | some (.failing _) => (List.range s.failures.size).find? fun i =>
        (s.failures.get i).origin == origin
    | _ => none
  match given with
  | some i => (⟨i⟩, s)
  | none => s.addFailure ⟨failure, origin⟩

/-! ## Cards -/

/-- Whether a property is of a kind. -/
def isA (s : Store) (kind : Kind) (id : PropertyId) : Bool :=
  (s.storedAt id).content.kind.isA kind

/-- The properties of a kind, in the order of the card. -/
def propertiesOf (s : Store) (card : CardId) (kind : Kind) : List PropertyId :=
  (s.cardAt card).properties.filter (s.isA kind)

/-- The most preferred property of a kind; of several the first in the card. -/
def preferredOf? (s : Store) (card : CardId) (kind : Kind) : Option PropertyId :=
  Preference.best? s.preference (s.propertiesOf card kind)

def addToCard (s : Store) (card : CardId) (id : PropertyId) : Store :=
  s.setCard card ((s.cardAt card).add id)

/-- Removes the properties of a kind, and counts them. -/
def removeFromCard (s : Store) (card : CardId) (kind : Kind) : Nat × Store :=
  let before := s.cardAt card
  let after := before.remove (s.isA kind)
  (before.size - after.size, s.setCard card after)

end Store

end VCardKit
