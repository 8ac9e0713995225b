/-
  Registries: which kind of property belongs to which name. A kind is registered under the name
  that its new properties bear, and is found by that name in any case, or by its XML name. Where
  two kinds have one XML name the older registration wins; a replacement keeps the age of what it
  replaces.
-/
import VCardKit.Property.AnyContent

namespace VCardKit

/-- What a new property of a kind shows of itself. -/
structure Sample where
  typeName : String
  qualifiedName : Option QualifiedName
  deriving DecidableEq, Repr

/-- Kinds that may be registered. -/
class Registrable (κ : Type) where
  label : κ → String
  /-- A new property, unless one needs arguments. -/
  sample? : κ → Option Sample

/-- One registration. -/
structure Registration (κ : Type) where
  name : String
  kind : κ
  qualifiedName : QualifiedName
  deriving DecidableEq, Repr

/-- The registrations, the oldest first. -/
structure Registry (κ : Type) where
  entries : List (Registration κ) := []
  deriving DecidableEq, Repr

/-- Why a registration is refused. -/
inductive RegistryError where
  | needsArguments (label : String)
  | nameTaken (name : String)
  deriving DecidableEq, Repr

def RegistryError.message : RegistryError → String
  | needsArguments label => label ++ " must be constructible without arguments"
  | nameTaken name =>
    "Property '" ++ name ++ "' is already registered. Use override=True to replace."

namespace Registry

variable {κ : Type}

instance : Inhabited (Registry κ) := ⟨{}⟩

/-! ## Looking -/

/-- The registration of a name. -/
def entry? (r : Registry κ) (name : String) : Option (Registration κ) :=
  r.entries.find? fun e => e.name = Text.upper name

/-- The kind that belongs to a name. -/
def get? (r : Registry κ) (name : String) : Option κ := (r.entry? name).map (·.kind)

def contains (r : Registry κ) (name : String) : Bool := (r.entry? name).isSome

/-- The namespace that is meant where none is given. -/
def effectiveNamespace : Option String → String
  | none | some "" => xCardNamespace
  | some ns => ns

/-- The kind that belongs to an XML name. -/
def find? (r : Registry κ) (ns : Option String) (localName : String) : Option κ :=
  (r.entries.find? fun e => e.qualifiedName = (effectiveNamespace ns, localName)).map (·.kind)

/-- The names, in the order of their code points. -/
def names (r : Registry κ) : List String :=
  (r.entries.map (·.name)).mergeSort fun a b => a ≤ b

/-! ## Changing -/

/-- The registration of a kind whose new properties show a sample. -/
def registration (k : κ) (s : Sample) : Registration κ :=
  { name := Text.upper s.typeName, kind := k
    qualifiedName := s.qualifiedName.getD (xCardNamespace, Text.lower s.typeName) }

/-- The registrations with one in the place of that of the same name, or at the end. -/
def place (e : Registration κ) : List (Registration κ) → List (Registration κ)
  | [] => [e]
  | d :: rest => if d.name = e.name then e :: rest else d :: place e rest

/-- Registers a kind; a name that is taken is refused unless `override` is set. -/
def register [Registrable κ] (r : Registry κ) (k : κ) (override : Bool) :
    Attempt RegistryError (Registry κ) Unit :=
  match Registrable.sample? k with
  | none => .failed (.needsArguments (Registrable.label k)) r
  | some s =>
    let e := registration k s
    if r.entries.any (fun d => d.name = e.name) && !override then .failed (.nameTaken e.name) r
    else .done () ⟨place e r.entries⟩

/-- Removes the registration of a name, and says whether there was one. -/
def unregister (r : Registry κ) (name : String) : Bool × Registry κ :=
  (r.contains name, ⟨r.entries.filter fun e => e.name != Text.upper name⟩)

end Registry

/-! ## Kinds of properties -/

instance : Registrable Kind where
  label := Kind.label
  sample? k := (AnyProperty.ofKind? k).map fun p =>
    ⟨p.typeName, Content.qualifiedName? p.content⟩

namespace Registry

/-- A new property of a kind, or of none. -/
def newProperty (kind : Option Kind) (name : String) : AnyProperty :=
  (kind.bind AnyProperty.ofKind?).getD (.raw name)

/-- A new property for a name. -/
def create (r : Registry Kind) (name : String) : AnyProperty := newProperty (r.get? name) name

/-- A new property for an XML name. -/
def createForXml (r : Registry Kind) (ns : Option String) (localName : String) : AnyProperty :=
  newProperty (r.find? ns localName) localName

/-- The kinds of the standard properties. -/
def standardKinds : List Kind := [.formattedName, .note, .title, .categories, .gender, .agent]

/-- The registry of the standard properties. -/
def standard : Registry Kind :=
  ⟨standardKinds.filterMap fun k => (Registrable.sample? k).map (registration k)⟩

end Registry

end VCardKit
