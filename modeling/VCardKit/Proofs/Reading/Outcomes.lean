/-
  What comes of reading one property with the registry of the standard properties. The table is
  complete: for lines and tagged values the outcome hangs on the name and on the declared data type
  (`LineOutcome`), for XML elements on the name and on the visible children (`ElementOutcome`).
  Each row comes from one lemma about the contents that the registry makes, in which the kinds are
  told apart.
-/
import VCardKit.Reading
import VCardKit.Proofs.Property.Agent
import VCardKit.Proofs.Registry.Standard
import VCardKit.Proofs.Xml.Element

namespace VCardKit

/-! ## Two kinds of readers -/

/-- A reader that asks for a nested card under a condition, and reads the value otherwise. -/
def AsksIf (nested : Prop) (result : Except Failure (List String)) : Prop :=
  nested ∧ result = .error (.embedded ⟨none, some .reader⟩) ∨ ¬ nested ∧ result = .ok []

/-- A reader that refuses a value as malformed under a condition, and reads it otherwise. -/
def RefusesIf (lacking : Prop) (result : Except Failure (List String)) : Prop :=
  lacking ∧ (∃ reason, result = .error (.cannotParse reason)) ∨ ¬ lacking ∧ result = .ok []

theorem TextValue.refusesIf_readXml (p : Property TextValue) (e : Xml.PropertyElement)
    (mode : Mode) :
    RefusesIf (∀ c ∈ e.visible, c.1 ≠ "text") (TextValue.readXml p e mode).result := by
  rw [← Xml.PropertyElement.first?_eq_none_iff, readXml]
  split
  · next value h => exact .inr ⟨by simp [h], rfl⟩
  · next h => exact .inl ⟨h, _, rfl⟩

theorem Categories.refusesIf_readXml (p : Property Categories) (e : Xml.PropertyElement)
    (mode : Mode) :
    RefusesIf (∀ c ∈ e.visible, c.1 ≠ "text") (Categories.readXml p e mode).result := by
  rw [← Xml.PropertyElement.all_eq_nil_iff, readXml]
  split
  · next h => exact .inl ⟨h, _, rfl⟩
  · next h => exact .inr ⟨h, rfl⟩

theorem Gender.refusesIf_readXml (p : Property Gender) (e : Xml.PropertyElement) (mode : Mode) :
    RefusesIf (∀ c ∈ e.visible, c.1 ≠ "sex") (Gender.readXml p e mode).result := by
  rw [← Xml.PropertyElement.first?_eq_none_iff, readXml]
  split
  · next h => exact .inl ⟨h, _, rfl⟩
  · next value h => exact .inr ⟨by simp [h], rfl⟩

theorem RawValue.refusesIf_readXml (p : Property RawValue) (e : Xml.PropertyElement)
    (mode : Mode) : RefusesIf (e.visible = []) (RawValue.readXml p e mode).result := by
  rw [← Xml.PropertyElement.firstValue?_eq_none_iff, readXml]
  split
  · next h => exact .inl ⟨h, _, rfl⟩
  · next name value h => exact .inr ⟨by simp [h], rfl⟩

/-- Whether an element shows no child that properties of a kind can read. -/
def Kind.Lacks (k : Kind) (e : Xml.PropertyElement) : Prop :=
  match k with
  | .raw => e.visible = []
  | .gender => ∀ c ∈ e.visible, c.1 ≠ "sex"
  | _ => ∀ c ∈ e.visible, c.1 ≠ "text"

/-! ## Results by content -/

namespace Property

section

variable {V : Type} [Content V] (p : Property V) (c : Parameters)

theorem typeName_readText (value : String) (version : Version) (mode : Mode) :
    (p.readText c value version mode).state.typeName = p.typeName := rfl

theorem typeName_readJson (value : TaggedValue) (version : Version) :
    (p.readJson c value version).state.typeName = p.typeName := rfl

theorem typeName_readXml (root : Xml.Root) (version : Version) (mode : Mode) :
    (p.readXml c root version mode).state.typeName = p.typeName := by
  cases root <;> rfl

theorem typeName_readHtml (node : Html.PageNode) :
    (p.readHtml node).state.typeName = p.typeName := rfl

end

variable {p : AnyProperty} (h : p.content.IsStandard) (c : Parameters)

include h

/-- Reading a line fails only for an agent without a link, which asks for a card. -/
theorem readText_result (value : String) (version : Version) (mode : Mode) :
    AsksIf (p.kind = .agent ∧ Agent.declaresLink c = false)
      (p.readText c value version mode).result := by
  obtain ⟨typeName, group, parameters, content⟩ := p
  cases h with
  | text kind _ => cases kind <;> exact .inr ⟨nofun, rfl⟩
  | categories _ => exact .inr ⟨nofun, rfl⟩
  | gender _ => exact .inr ⟨nofun, rfl⟩
  | raw _ => exact .inr ⟨nofun, rfl⟩
  | agent a =>
    cases hc : Agent.declaresLink c with
    | true =>
      rw [readText_of_declaresLink rfl hc]
      exact .inr ⟨nofun, rfl⟩
    | false =>
      rw [readText_of_not_declaresLink rfl hc]
      exact .inl ⟨⟨rfl, rfl⟩, rfl⟩

/-- A tagged value is read like a line; an agent reads its text form. -/
theorem readJson_result (value : TaggedValue) (version : Version) :
    AsksIf (p.kind = .agent ∧ Agent.declaresLink c = false)
      (p.readJson c value version).result := by
  obtain ⟨typeName, group, parameters, content⟩ := p
  cases h with
  | text kind _ => cases kind <;> exact .inr ⟨nofun, rfl⟩
  | categories _ => exact .inr ⟨nofun, rfl⟩
  | gender _ => exact .inr ⟨nofun, rfl⟩
  | raw _ => exact .inr ⟨nofun, rfl⟩
  | agent a => exact readText_result (.agent a) c value.toText version .rfc

/-- Reading an element fails for agents, and where no child can be read. -/
theorem readXml_result (e : Xml.Element) (version : Version) (mode : Mode) :
    p.kind = .agent ∧ (p.readXml c (.element e) version mode).result =
        .error (.unsupportedFormat p.typeName "xCards") ∨
      p.kind ≠ .agent ∧
        RefusesIf (p.kind.Lacks ⟨e, version⟩) (p.readXml c (.element e) version mode).result := by
  obtain ⟨typeName, group, parameters, content⟩ := p
  cases h with
  | text kind a =>
    have hread := TextValue.refusesIf_readXml ⟨typeName, group, c, a⟩ ⟨e, version⟩ mode
    cases kind <;> exact .inr ⟨nofun, hread⟩
  | categories a => exact .inr ⟨nofun, Categories.refusesIf_readXml _ _ mode⟩
  | gender a => exact .inr ⟨nofun, Gender.refusesIf_readXml _ _ mode⟩
  | raw a => exact .inr ⟨nofun, RawValue.refusesIf_readXml _ _ mode⟩
  | agent a => exact .inl ⟨rfl, rfl⟩

end Property

namespace Reading

open Registry (standard standardKinds)

/-! ## Lines and tagged values -/

/-- Whether the value of a property is a card of its own: an agent whose first `VALUE` names no
link. -/
def NestsCard (name : String) (c : Parameters) : Prop :=
  Text.upper name = "AGENT" ∧ ∀ v, c.first? "VALUE" = some v →
    Text.lower (Text.strip v) ≠ "url" ∧ Text.lower (Text.strip v) ≠ "uri"

theorem kind_create_eq_agent_iff {name : String} :
    (standard.create name).kind = .agent ↔ Text.upper name = "AGENT" := by
  rw [Registry.kind_create_eq_iff (by decide)]
  exact eq_comm

theorem nestsCard_iff {name : String} {c : Parameters} :
    NestsCard name c ↔ (standard.create name).kind = .agent ∧ Agent.declaresLink c = false := by
  rw [NestsCard, kind_create_eq_agent_iff, ← Bool.not_eq_true, Agent.declaresLink_iff_first?]
  simp only [not_exists, not_and, not_or, ne_eq]

/-! ## Elements -/

/-- Whether an element has a local name within the vocabulary of cards. -/
def HasName (e : Xml.Element) (localName : String) : Prop :=
  ((Xml.splitTag e.tag).1 = none ∨ (Xml.splitTag e.tag).1 = some "" ∨
    (Xml.splitTag e.tag).1 = some xCardNamespace) ∧ (Xml.splitTag e.tag).2 = localName

/-- Whether an element shows no child that its property can read: a text, the sex for a gender, and
any child where nothing is known of the name. -/
def LacksValue (e : Xml.PropertyElement) : Prop :=
  (∃ name ∈ ["fn", "note", "title", "categories"], HasName e.element name) ∧
      (∀ c ∈ e.visible, c.1 ≠ "text") ∨
    HasName e.element "gender" ∧ (∀ c ∈ e.visible, c.1 ≠ "sex") ∨
    (∀ name ∈ ["fn", "note", "title", "categories", "gender", "agent"],
      ¬ HasName e.element name) ∧ e.visible = []

/-- The property that an element is read into. -/
def propertyOf (e : Xml.Element) : AnyProperty :=
  standard.createForXml (Xml.splitTag e.tag).1 (Xml.splitTag e.tag).2

theorem hasName_iff {e : Xml.Element} {k : Kind} (hk : k ∈ standardKinds) {name : String}
    (hname : Text.lower (k.typeName?.getD "") = name) :
    HasName e name ↔ (propertyOf e).kind = k := by
  rw [propertyOf, Registry.kind_createForXml_eq_iff hk, Registry.effectiveNamespace_eq_iff, hname,
    HasName, eq_comm (a := name)]

theorem lacksValue_iff {e : Xml.PropertyElement} (h : (propertyOf e.element).kind ≠ .agent) :
    LacksValue e ↔ (propertyOf e.element).kind.Lacks e := by
  have hmem : (propertyOf e.element).kind ∈ Kind.raw :: standardKinds :=
    Registry.kind_createForXml_mem _ _
  have hfn : HasName e.element "fn" ↔ _ := hasName_iff (k := .formattedName) (by decide) rfl
  have hnote : HasName e.element "note" ↔ _ := hasName_iff (k := .note) (by decide) rfl
  have htitle : HasName e.element "title" ↔ _ := hasName_iff (k := .title) (by decide) rfl
  have hcategories : HasName e.element "categories" ↔ _ :=
    hasName_iff (k := .categories) (by decide) rfl
  have hgender : HasName e.element "gender" ↔ _ := hasName_iff (k := .gender) (by decide) rfl
  have hagent : HasName e.element "agent" ↔ _ := hasName_iff (k := .agent) (by decide) rfl
  simp only [LacksValue, List.mem_cons, List.not_mem_nil, or_false, exists_eq_or_imp,
    exists_eq_left, forall_eq_or_imp, forall_eq, hfn, hnote, htitle, hcategories, hgender, hagent]
  generalize (propertyOf e.element).kind = k at h hmem
  simp only [standardKinds, List.mem_cons, List.not_mem_nil, or_false] at hmem
  rcases hmem with rfl | rfl | rfl | rfl | rfl | rfl | rfl <;> simp [Kind.Lacks] at h ⊢

/-! ## The table -/

/-- What a result shows beside its outcome: the name that was asked for in upper case, a reason
only where the value is malformed, and a request for a card only where one is embedded. -/
structure Shows (name : String) (a : Attempt Failure AnyProperty Outcome) : Prop where
  typeName : a.state.typeName = Text.upper name
  reason : ∀ o, a.result = .ok o → o.reason? ≠ none → ∃ r, o = .cannotParse r
  embedded : ∀ o, a.result = .ok o → o.embedded? ≠ none → ∃ e, o = .embedded e
  not_skip : ∀ r, a.result ≠ .ok (.skip r)

/-- The outcome of a line or of a tagged value, of which there always is one. -/
structure LineOutcome (name : String) (c : Parameters) (a : Attempt Failure AnyProperty Outcome) :
    Prop
    extends Shows name a where
  returns : ∃ o, a.result = .ok o
  embedded_iff : (∃ e, a.result = .ok (.embedded e)) ↔ NestsCard name c
  ok_iff : (∃ w, a.result = .ok (.ok w)) ↔ ¬ NestsCard name c

/-- The outcome of an element, unless it belongs to an agent. -/
structure ElementOutcome (e : Xml.PropertyElement) (a : Attempt Failure AnyProperty Outcome) : Prop
    extends Shows (Xml.splitTag e.element.tag).2 a where
  failure_iff : ∀ f, a.result = .error f ↔
    f = .unsupportedFormat "AGENT" "xCards" ∧ HasName e.element "agent"
  cannotParse_iff : (∃ r, a.result = .ok (.cannotParse r)) ↔
    ¬ HasName e.element "agent" ∧ LacksValue e
  ok_iff : (∃ w, a.result = .ok (.ok w)) ↔ ¬ HasName e.element "agent" ∧ ¬ LacksValue e

/-- Only a failure that asks to leave the property out becomes a skipped property. -/
theorem eq_skip_of_capture {a : Attempt Failure AnyProperty (List String)} {r : Option String}
    (h : (capture a).result = .ok (.skip r)) : a.result = .error (.skip r) := by
  obtain ⟨result, state⟩ := a
  simp only [capture, Outcome.ofResult] at h
  split at h <;> simp at h
  rw [h]

theorem shows_capture {name : String} {a : Attempt Failure AnyProperty (List String)}
    (hname : a.state.typeName = Text.upper name) (h : ∀ r, a.result ≠ .error (.skip r)) :
    Shows name (capture a) := by
  have hskip : ∀ r, (capture a).result ≠ .ok (.skip r) := fun r hr => h r (eq_skip_of_capture hr)
  refine ⟨hname, fun o ho hr => ?_, fun o ho he => ?_, hskip⟩
  · cases o with
    | skip r => exact absurd ho (hskip r)
    | cannotParse r => exact ⟨r, rfl⟩
    | ok w => exact absurd rfl hr
    | embedded e => exact absurd rfl hr
  · cases o with
    | embedded e => exact ⟨e, rfl⟩
    | _ => exact absurd rfl he

theorem lineOutcome_capture {name : String} {c : Parameters}
    {a : Attempt Failure AnyProperty (List String)} (hname : a.state.typeName = Text.upper name)
    (h : AsksIf (NestsCard name c) a.result) : LineOutcome name c (capture a) := by
  rcases h with ⟨hcard, hresult⟩ | ⟨hcard, hresult⟩
  · have hcapture : (capture a).result = .ok (.embedded ⟨none, some .reader⟩) :=
      congrArg Outcome.ofResult hresult
    exact {
      toShows := shows_capture hname (by simp [hresult])
      returns := ⟨_, hcapture⟩
      embedded_iff := by simp [hcapture, hcard]
      ok_iff := by simp [hcapture, hcard] }
  · have hcapture : (capture a).result = .ok (.ok []) :=
      congrArg Outcome.ofResult hresult
    exact {
      toShows := shows_capture hname (by simp [hresult])
      returns := ⟨_, hcapture⟩
      embedded_iff := by simp [hcapture, hcard]
      ok_iff := by simp [hcapture, hcard] }

theorem elementOutcome_capture {e : Xml.PropertyElement}
    {a : Attempt Failure AnyProperty (List String)}
    (hname : a.state.typeName = Text.upper (Xml.splitTag e.element.tag).2)
    (h : HasName e.element "agent" ∧ a.result = .error (.unsupportedFormat "AGENT" "xCards") ∨
      ¬ HasName e.element "agent" ∧ RefusesIf (LacksValue e) a.result) :
    ElementOutcome e (capture a) := by
  rcases h with ⟨hagent, hresult⟩ | ⟨hagent, ⟨hlacks, r, hresult⟩ | ⟨hlacks, hresult⟩⟩
  · have hcapture : (capture a).result = .error (.unsupportedFormat "AGENT" "xCards") :=
      congrArg Outcome.ofResult hresult
    exact {
      toShows := shows_capture hname (by simp [hresult])
      failure_iff := by simp [hcapture, hagent, eq_comm]
      cannotParse_iff := by simp [hcapture, hagent]
      ok_iff := by simp [hcapture, hagent] }
  · have hcapture : (capture a).result = .ok (.cannotParse r) :=
      congrArg Outcome.ofResult hresult
    exact {
      toShows := shows_capture hname (by simp [hresult])
      failure_iff := by simp [hcapture, hagent]
      cannotParse_iff := by simp [hcapture, hagent, hlacks]
      ok_iff := by simp [hcapture, hlacks] }
  · have hcapture : (capture a).result = .ok (.ok []) :=
      congrArg Outcome.ofResult hresult
    exact {
      toShows := shows_capture hname (by simp [hresult])
      failure_iff := by simp [hcapture, hagent]
      cannotParse_iff := by simp [hcapture, hlacks]
      ok_iff := by simp [hcapture, hagent, hlacks] }

/-! ## The readers -/

theorem isStandard_create (name : String) : (standard.create name).content.IsStandard :=
  AnyContent.isStandard_of_kind_mem (Registry.kind_create_mem name)

theorem lineOutcome_ofText (config : Config) (name : String) (c : Parameters) (value : String)
    (version : Option Version) (group : Option String) :
    LineOutcome name c (ofText standard config name c value version group) := by
  refine lineOutcome_capture ?_ ?_
  · rw [Property.typeName_readText]
    exact Registry.typeName_create name
  rw [nestsCard_iff]
  exact Property.readText_result (p := { standard.create name with group })
    (isStandard_create name) c value _ _

theorem lineOutcome_ofJson (name : String) (c : Parameters) (value : TaggedValue)
    (version : Version) : LineOutcome name c (ofJson standard name c value version) := by
  refine lineOutcome_capture ?_ ?_
  · rw [Property.typeName_readJson]
    exact Registry.typeName_create name
  rw [nestsCard_iff]
  exact Property.readJson_result (isStandard_create name) c value version

theorem elementOutcome_ofXml (config : Config) (e : Xml.Element) (c : Parameters)
    (version : Version) :
    ElementOutcome ⟨e, version⟩ (ofXml standard config (.element e) c version) := by
  have hname : (propertyOf e).typeName = Text.upper (Xml.splitTag e.tag).2 :=
    Registry.typeName_createForXml _ _
  have hagent : HasName e "agent" ↔ (propertyOf e).kind = .agent :=
    hasName_iff (k := .agent) (by decide) rfl
  have hstandard : (propertyOf e).content.IsStandard :=
    AnyContent.isStandard_of_kind_mem (Registry.kind_createForXml_mem _ _)
  change ElementOutcome ⟨e, version⟩
    (capture ((propertyOf e).readXml c (.element e) version config.mode))
  refine elementOutcome_capture ?_ ?_
  · rw [Property.typeName_readXml]
    exact hname
  rcases Property.readXml_result hstandard c e version config.mode with
    ⟨hkind, hresult⟩ | ⟨hkind, hresult⟩
  · have hlocal : (Xml.splitTag e.tag).2 = "agent" := (hagent.2 hkind).2
    have hupper : Text.upper "agent" = "AGENT" := by decide +kernel
    rw [hname, hlocal, hupper] at hresult
    exact .inl ⟨hagent.2 hkind, hresult⟩
  · rw [← lacksValue_iff (e := ⟨e, version⟩) hkind] at hresult
    exact .inr ⟨fun h => hkind (hagent.1 h), hresult⟩

/-- **The outcomes of the readers.** With the standard registry, a line and a tagged value always
come to an outcome, and an element unless it belongs to an agent; which outcome it is hangs on the
name, the declared data type and the visible children alone. -/
theorem outcomes_of_standard (config : Config) :
    (∀ name c value version group,
      LineOutcome name c (ofText standard config name c value version group)) ∧
    (∀ name c value version, LineOutcome name c (ofJson standard name c value version)) ∧
    ∀ e c version, ElementOutcome ⟨e, version⟩ (ofXml standard config (.element e) c version) :=
  ⟨lineOutcome_ofText config, lineOutcome_ofJson, elementOutcome_ofXml config⟩

end Reading

end VCardKit
