/-
  Readings that ask for a nested card. Most types of properties never do, whatever is read
  (`Content.Cardless`), and a type that fails with a given failure does not unless that is the
  failure. So among the properties that a registry makes, which have been given nothing yet, the
  agents alone ask, and what they ask for goes to the property that reads (`of_asks`).
-/
import VCardKit.Proofs.Property.AgentRun
import VCardKit.Proofs.Property.History
import VCardKit.Proofs.Reading.Outcomes

namespace VCardKit

/-- The attempt does not fail by asking for a card. -/
def Attempt.NeverAsks {σ α : Type} (a : Attempt Failure σ α) : Prop :=
  ∀ e, a.result ≠ .error (.embedded e)

theorem RefusesIf.neverAsks {σ : Type} {lacking : Prop} {a : Attempt Failure σ (List String)}
    (h : RefusesIf lacking a.result) : a.NeverAsks := by
  intro e
  rcases h with ⟨-, reason, h⟩ | ⟨-, h⟩
  · rw [h]
    exact nofun
  · rw [h]
    exact nofun

/-! ## Types without cards -/

/-- No reader of a content type asks for a card. -/
class Content.Cardless (V : Type) [Content V] : Prop where
  readText (p : Property V) (value : String) (version : Version) (mode : Mode) :
    (Content.readText p value version mode).NeverAsks
  readXml (p : Property V) (element : Xml.PropertyElement) (mode : Mode) :
    (Content.readXml p element mode).NeverAsks
  readJson (p : Property V) (value : TaggedValue) (version : Version) :
    (Content.readJson p value version).NeverAsks
  readHtml (p : Property V) (node : Html.PageNode) : (Content.readHtml p node).NeverAsks

open Content (Cardless)

instance : Cardless TextValue where
  readText _ _ _ _ _ := nofun
  readXml p e mode := (TextValue.refusesIf_readXml p e mode).neverAsks
  readJson _ _ _ _ := nofun
  readHtml _ _ _ := nofun

instance : Cardless Categories where
  readText _ _ _ _ _ := nofun
  readXml p e mode := (Categories.refusesIf_readXml p e mode).neverAsks
  readJson _ _ _ _ := nofun
  readHtml _ _ _ := nofun

instance : Cardless Gender where
  readText _ _ _ _ _ := nofun
  readXml p e mode := (Gender.refusesIf_readXml p e mode).neverAsks
  readJson _ _ _ _ := nofun
  readHtml _ _ _ := nofun

instance : Cardless RawValue where
  readText _ _ _ _ _ := nofun
  readXml p e mode := (RawValue.refusesIf_readXml p e mode).neverAsks
  readJson _ _ _ _ := nofun
  readHtml _ _ _ := nofun

instance : Cardless Echo where
  readText _ _ _ _ _ := nofun
  readXml _ _ _ _ := nofun
  readJson _ _ _ _ := nofun
  readHtml _ _ _ := nofun

theorem Failing.neverAsks_readText {p : Property Failing}
    (h : ∀ e, p.content.failure ≠ some (.embedded e)) (value : String) (version : Version)
    (mode : Mode) : (readText p value version mode).NeverAsks := by
  intro e he
  rw [readText] at he
  split at he
  · next failure hfailure =>
    cases he
    exact h e hfailure
  · cases he

namespace Property

theorem neverAsks_read {V : Type} [Content V] [Cardless V] (p : Property V) (call : ReadCall) :
    (p.read call).NeverAsks := by
  cases call with
  | text parameters value version mode =>
    exact Cardless.readText { p with parameters } value version mode
  | xml parameters root version mode =>
    cases root with
    | comment _ => exact nofun
    | element e => exact Cardless.readXml { p with parameters } ⟨e, version⟩ mode
  | json parameters value version => exact Cardless.readJson { p with parameters } value version
  | html node => exact Cardless.readHtml p node

theorem neverAsks_read_of_failing {p : Property Failing}
    (h : ∀ e, p.content.failure ≠ some (.embedded e)) (call : ReadCall) :
    (p.read call).NeverAsks := by
  cases call with
  | text parameters value version mode =>
    exact Failing.neverAsks_readText (p := { p with parameters }) h value version mode
  | xml parameters root version mode => cases root <;> exact nofun
  | json parameters value version =>
    exact Failing.neverAsks_readText (p := { p with parameters }) h value.toText version .rfc
  | html node => exact Failing.neverAsks_readText h node.value .v3_0 .rfc

end Property

/-! ## Contents of any kind -/

namespace AnyContent

/-- A content whose readers do not ask for a card. -/
inductive IsCardless : AnyContent → Prop
  | wrapped {V : Type} [Content V] [Cardless V] (wrap : V → AnyContent) [Wrapper wrap] (c : V) :
      IsCardless (wrap c)
  | failing {f : Failing} (h : ∀ e, f.failure ≠ some (.embedded e)) : IsCardless (failing f)

/-- What a new property holds is an agent that has nothing, or has no card to ask for. -/
theorem isCardless_of_ofKind? {k : Kind} {c : AnyContent} (h : ofKind? k = some c) :
    (k = .agent ∧ c = agent {}) ∨ IsCardless c := by
  cases k with
  | property => cases h
  | text => cases h; exact .inr (.wrapped (text .text) _)
  | formattedName => cases h; exact .inr (.wrapped (text .formattedName) _)
  | note => cases h; exact .inr (.wrapped (text .note) _)
  | title => cases h; exact .inr (.wrapped (text .title) _)
  | categories => cases h; exact .inr (.wrapped categories _)
  | gender => cases h; exact .inr (.wrapped (gender .gender) _)
  | otherGender => cases h; exact .inr (.wrapped (gender .otherGender) _)
  | agent => cases h; exact .inl ⟨rfl, rfl⟩
  | raw => cases h; exact .inr (.wrapped raw _)
  | failing => cases h; exact .inr (.failing nofun)
  | skipping => cases h; exact .inr (.failing nofun)
  | _ => cases h; exact .inr (.wrapped echo _)

end AnyContent

namespace Property

variable {p : AnyProperty} {call : ReadCall} {e : Embedded}

theorem neverAsks_read_wrapped {V : Type} [Content V] (wrap : V → AnyContent)
    [AnyContent.Wrapper wrap] {p : Property V} (h : (p.read call).NeverAsks) :
    ((p.wrapped wrap).read call).NeverAsks := by
  rw [read_wrapped]
  exact h

theorem neverAsks_read_of_isCardless (h : p.content.IsCardless) (call : ReadCall) :
    (p.read call).NeverAsks := by
  obtain ⟨typeName, group, parameters, content⟩ := p
  cases h with
  | @wrapped V _ _ wrap _ c =>
    have hread := neverAsks_read ⟨typeName, group, parameters, c⟩ call
    exact neverAsks_read_wrapped wrap hread
  | @failing f hf =>
    have hread := neverAsks_read_of_failing (p := ⟨typeName, group, parameters, f⟩) hf call
    exact neverAsks_read_wrapped .failing hread

theorem typeName_read (p : AnyProperty) (call : ReadCall) :
    (p.read call).state.typeName = p.typeName := by
  cases call with
  | xml parameters root version mode => cases root <;> rfl
  | _ => rfl

theorem group_read (p : AnyProperty) (call : ReadCall) :
    (p.read call).state.group = p.group := by
  cases call with
  | xml parameters root version mode => cases root <;> rfl
  | _ => rfl

/-- What an agent asks for goes to the property that reads. -/
theorem eq_of_agent_asks {a : Agent} (hp : p.content = .agent a)
    (h : (p.read call).result = .error (.embedded e)) : e = ⟨none, some .reader⟩ := by
  have hreads : ∀ {x : Attempt Failure Agent (List String)}, a.Reads x →
      x.result = .error (.embedded e) → e = ⟨none, some .reader⟩ := by
    intro x hx he
    cases hx <;> cases he
    rfl
  cases call with
  | text parameters value version mode =>
    obtain ⟨x, hx, hread⟩ := exists_reads_readText hp parameters value version mode
    exact hreads hx ((congrArg Attempt.result hread).symm.trans h)
  | xml parameters root version mode =>
    obtain ⟨typeName, group, own, content⟩ := p
    cases hp
    -- An agent is no part of an XML document, so this failure asks for nothing.
    cases root <;> cases h
  | json parameters value version =>
    rw [read, readJson_of_agent hp] at h
    obtain ⟨x, hx, hread⟩ := exists_reads_readText hp parameters value.toText version .rfc
    exact hreads hx ((congrArg Attempt.result hread).symm.trans h)
  | html node =>
    obtain ⟨x, hx, hread⟩ := exists_reads_readHtml hp node
    exact hreads hx ((congrArg Attempt.result hread).symm.trans h)

end Property

/-! ## New properties -/

namespace AnyProperty

/-- A registry makes a raw property, or one of a kind that fixes the name. -/
theorem newProperty_cases (kind : Option Kind) (name : String) :
    Registry.newProperty kind name = raw name ∨
      ∃ (k : Kind) (typeName : String) (content : AnyContent), k.typeName? = some typeName ∧
        AnyContent.ofKind? k = some content ∧
        Registry.newProperty kind name = { typeName, content } := by
  rw [Registry.newProperty]
  cases hkind : kind.bind ofKind? with
  | none => exact .inl rfl
  | some p =>
    obtain ⟨k, -, hp⟩ := Option.bind_eq_some_iff.1 hkind
    rw [ofKind?] at hp
    obtain ⟨typeName, hname, hp⟩ := Option.bind_eq_some_iff.1 hp
    obtain ⟨content, hcontent, hp⟩ := Option.bind_eq_some_iff.1 hp
    cases hp
    exact .inr ⟨k, typeName, content, hname, hcontent, rfl⟩

theorem group_newProperty (kind : Option Kind) (name : String) :
    (Registry.newProperty kind name).group = none := by
  rcases newProperty_cases kind name with h | ⟨k, typeName, content, -, -, h⟩
  · rw [h]
    rfl
  · rw [h]

/-- A property that was given nothing yet, but for a group. -/
def IsBlank (p : AnyProperty) : Prop :=
  p.content = .agent {} ∧ p.typeName = "AGENT" ∨ p.content.IsCardless

theorem isBlank_newProperty (kind : Option Kind) (name : String) :
    (Registry.newProperty kind name).IsBlank := by
  rcases newProperty_cases kind name with h | ⟨k, typeName, content, hname, hcontent, h⟩
  · rw [h]
    exact .inr (.wrapped .raw _)
  · rw [h]
    rcases AnyContent.isCardless_of_ofKind? hcontent with ⟨rfl, rfl⟩ | hc
    · cases hname
      exact .inl ⟨rfl, rfl⟩
    · exact .inr hc

/-- A blank property that asks for a card is an agent, asks for itself, and has nothing yet. -/
theorem of_asks {p : AnyProperty} (hp : p.IsBlank) {call : ReadCall} {e : Embedded}
    (h : (p.read call).result = .error (.embedded e)) :
    e = ⟨none, some .reader⟩ ∧ (p.read call).state.typeName = "AGENT" ∧
      (p.read call).state.content = .agent {} := by
  rcases hp with ⟨hcontent, hname⟩ | hcardless
  · refine ⟨Property.eq_of_agent_asks hcontent h, ?_, ?_⟩
    · rw [Property.typeName_read, hname]
    · exact (Property.keepsIfFailed_reading p call _ h).trans hcontent
  · exact absurd h (Property.neverAsks_read_of_isCardless hcardless call e)

end AnyProperty

end VCardKit
