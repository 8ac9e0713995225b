/-
  Identities and cards. Properties, their parameters, cards, registries and raised failures are
  shared: two places may hold the same one, and a change through one place is seen through the
  other. Each has an identity by which a store finds it. A card is a version and its properties in
  the order of the document; a property may stand in it more than once.
-/
import VCardKit.Version

namespace VCardKit

/-! ## Identities -/

/-- The identity of a parameter container. -/
structure ParametersId where
  index : Nat
  deriving DecidableEq, Repr, Inhabited

/-- The identity of a property. -/
structure PropertyId where
  index : Nat
  deriving DecidableEq, Repr, Inhabited

/-- The identity of a card. -/
structure CardId where
  index : Nat
  deriving DecidableEq, Repr, Inhabited

/-- The identity of a registry of property types. -/
structure RegistryId where
  index : Nat
  deriving DecidableEq, Repr, Inhabited

/-- The identity of a raised failure. -/
structure FailureId where
  index : Nat
  deriving DecidableEq, Repr, Inhabited

/-! ## Cards -/

/-- A card. -/
structure Card where
  version : Version := .v3_0
  properties : List PropertyId := []
  deriving DecidableEq, Repr, Inhabited

namespace Card

/-- The card with a property at its end. -/
def add (c : Card) (id : PropertyId) : Card := { c with properties := c.properties ++ [id] }

/-- The number of properties. -/
def size (c : Card) : Nat := c.properties.length

/-- The card without the properties that satisfy `p`. -/
def remove (c : Card) (p : PropertyId → Bool) : Card :=
  { c with properties := c.properties.filter fun id => !p id }

/-- The card as a log shows it. -/
def describe (c : Card) : String :=
  "VCard(version=" ++ c.version.text ++ ", properties=" ++ toString c.size ++ ")"

end Card

end VCardKit
