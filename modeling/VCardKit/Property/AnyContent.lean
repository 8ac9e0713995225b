/-
  Contents of every kind in one type, so that a card can hold properties of different kinds. The
  hooks are those of the content inside.
-/
import VCardKit.Property.Agent
import VCardKit.Property.Categories
import VCardKit.Property.Gender
import VCardKit.Property.Kind
import VCardKit.Property.Preference
import VCardKit.Property.Probe
import VCardKit.Property.RawValue
import VCardKit.Property.TextValue

namespace VCardKit

/-- Which of the kinds with one text. -/
inductive TextKind where
  | text
  | formattedName
  | note
  | title
  deriving DecidableEq, Repr

/-- Which of the kinds with a gender. -/
inductive GenderKind where
  | gender
  | otherGender
  deriving DecidableEq, Repr

/-- A content of any kind. -/
inductive AnyContent where
  | text (kind : TextKind) (content : TextValue)
  | categories (content : Categories)
  | gender (kind : GenderKind) (content : Gender)
  | agent (content : Agent)
  | raw (content : RawValue)
  | echo (content : Echo)
  | failing (content : Failing)
  deriving DecidableEq, Repr

instance : Inhabited AnyContent := ⟨.raw {}⟩

namespace AnyContent

/-! ## Kinds -/

def kind : AnyContent → Kind
  | text .text _ => .text
  | text .formattedName _ => .formattedName
  | text .note _ => .note
  | text .title _ => .title
  | categories _ => .categories
  | gender .gender _ => .gender
  | gender .otherGender _ => .otherGender
  | agent _ => .agent
  | raw _ => .raw
  | echo c =>
    match c.variant with
    | .plain => .echo
    | .adjusting => .adjusting
    | .validating => .validating
    | .namespaced => .namespaced
    | .namespacedTwin => .namespacedTwin
  | failing c => if c.skipping then .skipping else .failing

/-- The content of a new property of a kind, before any value is given to it. The most general kind
has none. -/
def ofKind? : Kind → Option AnyContent
  | .property => none
  | .text => some (text .text {})
  | .formattedName => some (text .formattedName {})
  | .note => some (text .note {})
  | .title => some (text .title {})
  | .categories => some (categories {})
  | .gender => some (gender .gender {})
  | .otherGender => some (gender .otherGender {})
  | .agent => some (agent {})
  | .raw => some (raw {})
  | .echo => some (echo { variant := .plain })
  | .adjusting => some (echo { variant := .adjusting })
  | .validating => some (echo { variant := .validating })
  | .namespaced => some (echo { variant := .namespaced })
  | .namespacedTwin => some (echo { variant := .namespacedTwin })
  | .failing => some (failing {})
  | .skipping => some (failing { skipping := true, failure := some (.skip (some "always")) })

/-! ## Hooks -/

/-- What a function makes of the content inside, given the way back. -/
def elim {β : Type} (c : AnyContent)
    (f : {V : Type} → [Content V] → V → (V → AnyContent) → β) : β :=
  match c with
  | text kind c => f c (text kind)
  | categories c => f c categories
  | gender kind c => f c (gender kind)
  | agent c => f c agent
  | raw c => f c raw
  | echo c => f c echo
  | failing c => f c failing

instance : Content AnyContent where
  writeText p version mode := p.content.elim fun c wrap =>
    (Content.writeText (p.withContent c) version mode).mapState wrap
  readText p value version mode := p.content.elim fun c wrap =>
    (Content.readText (p.withContent c) value version mode).mapState wrap
  writeXml p element mode := p.content.elim fun c wrap =>
    (Content.writeXml (p.withContent c) element mode).mapState fun (c, element) => (wrap c, element)
  readXml p element mode := p.content.elim fun c wrap =>
    (Content.readXml (p.withContent c) element mode).mapState wrap
  writeJson p version := p.content.elim fun c wrap =>
    (Content.writeJson (p.withContent c) version).mapState wrap
  readJson p value version := p.content.elim fun c wrap =>
    (Content.readJson (p.withContent c) value version).mapState wrap
  readHtml p node := p.content.elim fun c wrap =>
    (Content.readHtml (p.withContent c) node).mapState wrap
  adjust p copy version mode card := p.content.elim fun c _ =>
    Content.adjust (p.withContent c) copy version mode card
  findings p version card := p.content.elim fun c _ =>
    Content.findings (p.withContent c) version card
  isSupported c version := c.elim fun c _ => Content.isSupported c version
  qualifiedName? c := c.elim fun c _ => Content.qualifiedName? c

end AnyContent

/-- A property of any kind. -/
abbrev AnyProperty := Property AnyContent

namespace AnyProperty

def kind (p : AnyProperty) : Kind := p.content.kind

/-- A new property of a kind that fixes the name. -/
def ofKind? (k : Kind) : Option AnyProperty := do
  let typeName ← k.typeName?
  let content ← AnyContent.ofKind? k
  return { typeName, content }

/-- A new property of a name that no kind claims. -/
def raw (name : String) : AnyProperty := (RawValue.property name).withContent (.raw {})

/-- The property as a log shows it. -/
def describe (p : AnyProperty) : String :=
  let group :=
    match p.group with
    | none | some "" => ""
    | some g => g ++ "."
  p.kind.label ++ "(" ++ group ++ p.typeName ++ ")"

end AnyProperty

end VCardKit
