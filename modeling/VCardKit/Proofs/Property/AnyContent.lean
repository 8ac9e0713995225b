/-
  A property of any kind does what the content inside does. Each constructor of contents of any kind
  passes the hooks on (`Wrapper`), so that an operation on the wrapped property is the operation on
  the property itself, with the state that it leaves behind wrapped again. What is shown for the
  properties of one content type holds in this way for the properties that a card is made of.
-/
import VCardKit.Property.AnyContent

namespace VCardKit

namespace AnyContent

/-! ## Wrappers -/

/-- A constructor of contents of any kind; the hooks are those of the content inside. -/
class Wrapper {V : Type} [Content V] (wrap : V → AnyContent) : Prop where
  elim_wrap {β : Type} (c : V) (f : {W : Type} → [Content W] → W → (W → AnyContent) → β) :
    (wrap c).elim f = f c wrap

instance (kind : TextKind) : Wrapper (text kind) := ⟨fun _ _ => rfl⟩

instance : Wrapper categories := ⟨fun _ _ => rfl⟩

instance (kind : GenderKind) : Wrapper (gender kind) := ⟨fun _ _ => rfl⟩

instance : Wrapper agent := ⟨fun _ _ => rfl⟩

instance : Wrapper raw := ⟨fun _ _ => rfl⟩

instance : Wrapper echo := ⟨fun _ _ => rfl⟩

instance : Wrapper failing := ⟨fun _ _ => rfl⟩

end AnyContent

namespace Property

open AnyContent

variable {V : Type}

/-- The property among those of any kind. -/
def wrapped (wrap : V → AnyContent) (p : Property V) : AnyProperty := p.withContent (wrap p.content)

theorem eq_wrapped {wrap : V → AnyContent} {p : AnyProperty} {c : V} (h : p.content = wrap c) :
    p = (p.withContent c).wrapped wrap := by
  obtain ⟨typeName, group, parameters, content⟩ := p
  cases h
  rfl

/-! ## Operations -/

variable [Content V] (wrap : V → AnyContent) [Wrapper wrap] (p : Property V)

theorem attempt_wrapped {α : Type}
    (hook : {W : Type} → [Content W] → Property W → Attempt Failure W α) :
    (p.wrapped wrap).attempt
        ((wrap p.content).elim fun c wrap => (hook (p.withContent c)).mapState wrap) =
      (p.attempt (hook p)).mapState (wrapped wrap) := by
  rw [Wrapper.elim_wrap]
  rfl

theorem writeText_wrapped (version : Version) (mode : Mode) :
    (p.wrapped wrap).writeText version mode =
      (p.writeText version mode).mapState (wrapped wrap) :=
  attempt_wrapped wrap p fun p => Content.writeText p version mode

theorem readText_wrapped (parameters : Parameters) (value : String) (version : Version)
    (mode : Mode) :
    (p.wrapped wrap).readText parameters value version mode =
      (p.readText parameters value version mode).mapState (wrapped wrap) :=
  attempt_wrapped wrap { p with parameters } fun p => Content.readText p value version mode

theorem writeXml_wrapped (root : Xml.Root) (version : Version) (mode : Mode) :
    (p.wrapped wrap).writeXml root version mode =
      (p.writeXml root version mode).mapState (Prod.map (wrapped wrap) id) := by
  cases root with
  | comment _ => rfl
  | element element =>
    -- The element is part of the state, so the hook is not one of `attempt_wrapped`.
    have helim := @Wrapper.elim_wrap V _ wrap _ _ p.content fun c wrap =>
      (Content.writeXml (p.withContent c) ⟨element, version⟩ mode).mapState (Prod.map wrap id)
    exact congrArg (Attempt.mapState fun state =>
      ({ p.wrapped wrap with content := state.1 }, Xml.Root.element state.2)) helim

theorem readXml_wrapped (parameters : Parameters) (root : Xml.Root) (version : Version)
    (mode : Mode) :
    (p.wrapped wrap).readXml parameters root version mode =
      (p.readXml parameters root version mode).mapState (wrapped wrap) := by
  cases root with
  | comment _ => rfl
  | element element =>
    exact attempt_wrapped wrap { p with parameters } fun p =>
      Content.readXml p ⟨element, version⟩ mode

theorem writeJson_wrapped (version : Version) :
    (p.wrapped wrap).writeJson version = (p.writeJson version).mapState (wrapped wrap) :=
  attempt_wrapped wrap p fun p => Content.writeJson p version

theorem readJson_wrapped (parameters : Parameters) (value : TaggedValue) (version : Version) :
    (p.wrapped wrap).readJson parameters value version =
      (p.readJson parameters value version).mapState (wrapped wrap) :=
  attempt_wrapped wrap { p with parameters } fun p => Content.readJson p value version

theorem readHtml_wrapped (node : Html.PageNode) :
    (p.wrapped wrap).readHtml node = (p.readHtml node).mapState (wrapped wrap) :=
  attempt_wrapped wrap p fun p => Content.readHtml p node

end Property

end VCardKit
