/-
  Writing into an XML element. A writer fails before it appends anything, and then the element is as
  it was; or it succeeds, and then it has extended the element, by children that a property sees
  (`Attempt.AppendsOrFails`). A type that keeps the default writer has no part in this: its text
  form is asked for first, without the element, and the one child is appended when the text is there
  (`Content.DefaultXml`). The types with a writer of their own append to what they were given, and
  cannot fail on the way.
-/
import VCardKit.Proofs.Property.AnyContent
import VCardKit.Proofs.Property.FailedRead
import VCardKit.Proofs.Xml.Growth

namespace VCardKit

open Xml (PropertyElement)
open Xml.PropertyElement (Extends)

/-! ## Attempts -/

namespace Attempt

/-- The attempt to write into an element fails and leaves the element as it was, or succeeds and has
extended the element. -/
structure AppendsOrFails (a : Attempt Failure Xml.Root Unit) (e : PropertyElement) : Prop where
  of_failed : a.KeepsIfFailed (.element e.element)
  of_done : a.result = .ok () → ∃ e', a.state = .element e'.element ∧ Extends e e'

variable {e e' : PropertyElement}

theorem appendsOrFails_done (h : Extends e e') :
    (done () (.element e'.element) : Attempt Failure Xml.Root Unit).AppendsOrFails e :=
  ⟨keepsIfFailed_done, fun _ => ⟨e', rfl, h⟩⟩

theorem appendsOrFails_failed {f : Failure} :
    (failed f (.element e.element) : Attempt Failure Xml.Root Unit).AppendsOrFails e :=
  ⟨keepsIfFailed_failed, nofun⟩

end Attempt

open Attempt

/-! ## Writers -/

namespace Content

/-- What a writer leaves of the element. -/
def xmlLeft {V : Type} [Content V] (p : Property V) (e : PropertyElement) (mode : Mode) :
    Attempt Failure Xml.Root Unit :=
  (Content.writeXml p e mode).mapState fun state => .element state.2

/-- The writer of a content type appends or fails. -/
class AppendsXml (V : Type) [Content V] : Prop where
  writeXml (p : Property V) (e : PropertyElement) (mode : Mode) : (xmlLeft p e mode).AppendsOrFails e

/-- A content type that keeps the default writer, whatever its text form is and however that may
fail. -/
class DefaultXml (V : Type) [Content V] : Prop where
  writeXml_eq (p : Property V) (e : PropertyElement) (mode : Mode) :
    Content.writeXml p e mode = Fallback.writeXml Content.writeText p e mode

variable {V : Type} [Content V]

/-- What the default writer leaves: one child with the text, or the failure to give a text. -/
theorem xmlLeft_of_default [DefaultXml V] (p : Property V) (e : PropertyElement) (mode : Mode) :
    xmlLeft p e mode =
      match (Content.writeText p e.version mode).result with
      | .ok text => .done () (.element (e.append "unknown" (some text)).element)
      | .error f => .failed f (.element e.element) := by
  rw [xmlLeft, DefaultXml.writeXml_eq, Fallback.writeXml]
  cases (Content.writeText p e.version mode).result <;> rfl

instance [DefaultXml V] : AppendsXml V where
  writeXml p e mode := by
    rw [xmlLeft_of_default]
    split
    · exact appendsOrFails_done (e.extends_append "unknown" _)
    · exact appendsOrFails_failed

end Content

open Content (AppendsXml DefaultXml)

instance : DefaultXml RawValue := ⟨fun _ _ _ => rfl⟩

instance : DefaultXml Echo := ⟨fun _ _ _ => rfl⟩

instance : DefaultXml Failing := ⟨fun _ _ _ => rfl⟩

instance : AppendsXml TextValue where
  writeXml _ e _ := appendsOrFails_done (e.extends_append "text" _)

instance : AppendsXml Categories where
  writeXml p e _ := appendsOrFails_done (e.extends_appendAll "text" p.content.values)

/-- The sex is there whether or not an identity follows. -/
theorem Gender.appendsOrFails (p : Property Gender) (e : PropertyElement) (mode : Mode) :
    (Content.xmlLeft p e mode).AppendsOrFails e := by
  have hsex := e.extends_append "sex" (some (p.content.sex.getD ""))
  show ((writeXml p e mode).mapState _).AppendsOrFails e
  rw [writeXml]
  cases p.content.identity with
  | none => exact appendsOrFails_done hsex
  | some identity => exact appendsOrFails_done (hsex.trans (PropertyElement.extends_append _ _ _))

instance : AppendsXml Gender := ⟨Gender.appendsOrFails⟩

/-- An agent is no part of an XML document. -/
instance : AppendsXml Agent := ⟨fun _ _ _ => appendsOrFails_failed⟩

instance : AppendsXml AnyContent where
  writeXml p e mode := by
    obtain ⟨typeName, group, parameters, content⟩ := p
    have hinside {V : Type} [Content V] [AppendsXml V] (c : V) :
        (Content.xmlLeft (⟨typeName, group, parameters, c⟩ : Property V) e mode).AppendsOrFails e :=
      AppendsXml.writeXml _ e mode
    cases content with
    | text kind c => exact hinside c
    | categories c => exact hinside c
    | gender kind c => exact hinside c
    | agent c => exact hinside c
    | raw c => exact hinside c
    | echo c => exact hinside c
    | failing c => exact hinside c

/-! ## Properties -/

namespace Property

theorem appendsOrFails_writeXml {V : Type} [Content V] [AppendsXml V] (p : Property V)
    (e : Xml.Element) (version : Version) (mode : Mode) :
    ((p.writeXml (.element e) version mode).mapState Prod.snd).AppendsOrFails ⟨e, version⟩ :=
  AppendsXml.writeXml p ⟨e, version⟩ mode

/-- **Writing XML appends, or changes nothing.** A property of any kind, and of any further type
that keeps the default writer, leaves the element as it was if it is not written, whatever the
reason; if it is written, the element has its tag, its text and its children still, and behind them
children that a property sees. -/
theorem writeXml_appendsOrFails (e : Xml.Element) (version : Version) (mode : Mode) :
    (∀ p : AnyProperty,
      ((p.writeXml (.element e) version mode).mapState Prod.snd).AppendsOrFails ⟨e, version⟩) ∧
    ∀ {V : Type} [Content V] [DefaultXml V] (p : Property V),
      ((p.writeXml (.element e) version mode).mapState Prod.snd).AppendsOrFails ⟨e, version⟩ :=
  ⟨fun p => p.appendsOrFails_writeXml e version mode,
    fun p => p.appendsOrFails_writeXml e version mode⟩

/-- A gender with both parts, and a property that fails with a nested card, in an element whose tag
has a namespace without an end. A child of another vocabulary stands there already. -/
theorem writeXml_appendsOrFails_unclosed :
    let e : Xml.Element := ⟨"\x7burn:x", some "t",
      [.comment "c" none, .element "\x7burn:y\x7dsex" (some "f") [] none]⟩
    let gender : AnyProperty :=
      { typeName := "GENDER", content := .gender .gender ⟨some "M", some "x"⟩ }
    let failing : Property Failing :=
      { typeName := "X-SIGNAL", content := { failure := some (.embedded {}) } }
    let written := gender.writeXml (.element e) .v3_0 .rfc
    let refused := failing.writeXml (.element e) .v3_0 .rfc
    (written.result = .ok () ∧
      ∃ e', written.state.2 = .element e'.element ∧ Extends ⟨e, .v3_0⟩ e') ∧
    refused.result = .error (.embedded {}) ∧ refused.state.2 = .element e := by
  intro e gender failing written refused
  obtain ⟨hany, hdefault⟩ := writeXml_appendsOrFails e .v3_0 .rfc
  have hrefused : refused.result = .error (.embedded {}) := rfl
  exact ⟨⟨rfl, (hany gender).of_done rfl⟩, hrefused, (hdefault failing).of_failed _ hrefused⟩

end Property

end VCardKit
