/-
  Agents in both of their forms. The declared data type of the value is what tells a link from a
  nested card. Writing replaces what was declared before, so that a link is declared exactly where
  one is written (`declaresLink_adjust`). A new agent that reads under the written parameters gets
  the link back, or asks for a card and takes the one it is given.
-/
import VCardKit.Proofs.Parameters.DeclaredType
import VCardKit.Proofs.Store.Basic
import VCardKit.Proofs.Text.Escape

namespace VCardKit

namespace Agent

/-! ## Declared links -/

theorem declaresLink_iff {c : Parameters} :
    declaresLink c = true ↔ c.dataType? = some .url ∨ c.dataType? = some .uri := by
  rw [declaresLink, Bool.or_eq_true, beq_iff_eq, beq_iff_eq]

theorem ofName?_eq_link_iff {v : String} :
    DataType.ofName? v = some .url ∨ DataType.ofName? v = some .uri ↔
      Text.lower (Text.strip v) = "url" ∨ Text.lower (Text.strip v) = "uri" := by
  simp only [DataType.ofName?_eq_some_iff, DataType.wireName, reduceCtorEq, false_and, or_false]

/-- A link is declared by the first value of `VALUE`, in any case and with blanks around it. -/
theorem declaresLink_iff_first? {c : Parameters} :
    declaresLink c = true ↔ ∃ v, c.first? "VALUE" = some v ∧
      (Text.lower (Text.strip v) = "url" ∨ Text.lower (Text.strip v) = "uri") := by
  simp only [declaresLink_iff, Parameters.dataType?_eq_some_iff, ← exists_or, ← and_or_left,
    ofName?_eq_link_iff]

theorem declaresLink_ofDataType {c : Parameters} {t : Option DataType} :
    declaresLink ((Parameters.Edit.ofDataType t).apply c) = true ↔
      t = some .url ∨ t = some .uri := by
  rw [declaresLink_iff, Parameters.dataType?_ofDataType]

theorem linkType_eq (version : Version) :
    linkType version = .url ∨ linkType version = .uri := by
  cases version <;> decide

/-- The parameters to write declare a link exactly if there is one. -/
theorem declaresLink_adjust (p : Property Agent) (copy : Parameters) (version : Version)
    (mode : Mode) (card : Option Card) :
    declaresLink ((adjust p copy version mode card).foldl Parameters.Edit.apply copy) =
      p.content.url.isSome := by
  rw [Bool.eq_iff_iff, adjust, List.foldl_cons, List.foldl_nil, declaresLink_ofDataType]
  cases p.content.url with
  | none => simp
  | some url => simpa using linkType_eq version

end Agent

/-! ## Agents among properties of any kind -/

namespace Property

variable {p : AnyProperty} {a : Agent} (h : p.content = .agent a)

include h

theorem writeParameters_of_agent (version : Version) (mode : Mode) (card : Option Card) :
    p.writeParameters version mode card =
      (Agent.adjust (p.withContent a) p.parameters version mode card).foldl
        Parameters.Edit.apply p.parameters := by
  obtain ⟨typeName, group, parameters, content⟩ := p
  cases h
  rfl

theorem writeText_of_agent (version : Version) (mode : Mode) :
    p.writeText version mode =
      p.attempt ((Agent.writeText (p.withContent a) version mode).mapState .agent) := by
  obtain ⟨typeName, group, parameters, content⟩ := p
  cases h
  rfl

/-- Under parameters that declare a link, the text is the link. -/
theorem readText_of_declaresLink {c : Parameters} (hc : Agent.declaresLink c = true)
    (value : String) (version : Version) (mode : Mode) :
    p.readText c value version mode =
      .done [] { p with
        parameters := c, content := .agent { a with url := some (Text.unescape value) } } := by
  obtain ⟨typeName, group, parameters, content⟩ := p
  cases h
  have hread : Agent.readText ⟨typeName, group, c, a⟩ value version mode =
      .done [] { a with url := some (Text.unescape value) } := if_pos hc
  simp only [readText, attempt, Content.readText, AnyContent.elim, withContent, hread]
  rfl

/-- Under other parameters, the text is a card that the property waits for. -/
theorem readText_of_not_declaresLink {c : Parameters} (hc : Agent.declaresLink c = false)
    (value : String) (version : Version) (mode : Mode) :
    p.readText c value version mode =
      .failed (.embedded ⟨none, some .reader⟩) { p with parameters := c } := by
  obtain ⟨typeName, group, parameters, content⟩ := p
  cases h
  have hread : Agent.readText ⟨typeName, group, c, a⟩ value version mode =
      .failed (.embedded ⟨none, some .reader⟩) a := if_neg (Bool.eq_false_iff.1 hc)
  simp only [readText, attempt, Content.readText, AnyContent.elim, withContent, hread]
  rfl

theorem findings_of_agent (version : Version) (card : Option Card) :
    Content.findings p version card = Agent.findings (p.withContent a) version card := by
  obtain ⟨typeName, group, parameters, content⟩ := p
  cases h
  rfl

end Property

/-! ## Agents in a store -/

namespace Store

variable {s : Store} {id : PropertyId} {c : ParametersId} {a : Agent}
  (hid : id.index < s.properties.size) (h : (s.storedAt id).content = .agent a)

include hid h

theorem readText_of_declaresLink (hc : Agent.declaresLink (s.parametersAt c) = true)
    (value : String) (version : Version) (mode : Mode) :
    s.readText id c value version mode = (.ok [],
      (s.install id c).setContent id (.agent { a with url := some (Text.unescape value) })) := by
  have hp : ((s.install id c).propertyAt id).content = .agent a := by
    rwa [propertyAt_install hid]
  change (s.install id c).conclude id
    (((s.install id c).propertyAt id).readText (s.parametersAt c) value version mode) = _
  rw [Property.readText_of_declaresLink hp hc]
  rfl

theorem readText_of_not_declaresLink (hc : Agent.declaresLink (s.parametersAt c) = false)
    (value : String) (version : Version) (mode : Mode) :
    s.readText id c value version mode = (.error (.embedded ⟨none, some (.property id)⟩),
      (s.install id c).setContent id (.agent a)) := by
  have hp : ((s.install id c).propertyAt id).content = .agent a := by
    rwa [propertyAt_install hid]
  change (s.install id c).conclude id
    (((s.install id c).propertyAt id).readText (s.parametersAt c) value version mode) = _
  rw [Property.readText_of_not_declaresLink hp hc]
  change (_, (s.install id c).setContent id ((s.install id c).propertyAt id).content) = _
  rw [hp]
  rfl

omit hid

/-- The card goes to the property that waits for it, in place of a link. -/
theorem inject_of_agent (card : CardId) :
    s.inject ⟨none, some (.property id)⟩ card = s.setContent id (.agent ⟨none, some card⟩) := by
  simp only [inject, attachCard, h, AnyContent.attach?, Agent.attach]

/-- The copy that is written declares a link exactly if the agent has one. -/
theorem declaresLink_writeParameters (version : Version) (mode : Mode) (card : Option CardId) :
    let copy := s.writeParameters id version mode card
    Agent.declaresLink (copy.2.parametersAt copy.1) = a.url.isSome := by
  intro copy
  have hcopy : copy.2.parametersAt copy.1 =
      (s.propertyAt id).writeParameters version mode (card.map s.cardAt) :=
    parametersAt_writeParameters s id version mode card
  rw [hcopy, Property.writeParameters_of_agent h, Agent.declaresLink_adjust]
  rfl

/-- A link goes before a card. -/
theorem writeText_of_agent (version : Version) (mode : Mode) :
    (s.writeText id version mode).1 =
      match a.url, a.card with
      | some url, _ => .ok (Text.escape url)
      | none, some card => .error (.embedded ⟨some card, none⟩)
      | none, none => .error (.skip (some Agent.absent)) := by
  have hp : (s.propertyAt id).content = .agent a := h
  rw [writeText, conclude, Property.writeText_of_agent hp]
  obtain ⟨_ | url, _ | card⟩ := a <;> rfl

theorem exists_valueEmpty_iff (version : Version) (card : Option Card) :
    (∃ w ∈ Content.findings (s.propertyAt id) version card, w.kind = .valueEmpty) ↔
      a.url = none ∧ a.card = none := by
  have hp : (s.propertyAt id).content = .agent a := h
  rw [Property.findings_of_agent hp]
  obtain ⟨_ | url, _ | card⟩ := a <;> simp [Agent.findings, Property.withContent, Warning.empty]

end Store

/-! ## Writing and reading back -/

/-- A new agent, with neither a link nor a card. -/
def Agent.fresh : AnyProperty := Registry.newProperty (some .agent) "AGENT"

namespace Store

/-- A new agent that reads the text under the parameters has the link and no card. -/
def ReadsLink (s : Store) (c : ParametersId) (text link : String) : Prop :=
  ∀ (version : Version) (mode : Mode),
    let new := s.addProperty Agent.fresh
    let read := new.2.readText new.1 c text version mode
    read.1 = .ok [] ∧ (read.2.storedAt new.1).content = .agent ⟨some link, none⟩

/-- A new agent that reads any text under the parameters asks for a card, and has the card that it
is given and no link. -/
def ReadsCard (s : Store) (c : ParametersId) : Prop :=
  ∀ (text : String) (version : Version) (mode : Mode),
    let new := s.addProperty Agent.fresh
    let read := new.2.readText new.1 c text version mode
    ∃ e, read.1 = .error (.embedded e) ∧
      ∀ card, ((read.2.inject e card).storedAt new.1).content = .agent ⟨none, some card⟩

section

variable {s : Store} {c : ParametersId} (hc : c.index < s.parameters.size)

include hc

theorem readsLink (h : Agent.declaresLink (s.parametersAt c) = true) (text : String) :
    s.ReadsLink c text (Text.unescape text) := by
  intro version mode new read
  have hid : new.1.index < new.2.properties.size := lt_size_addProperty s Agent.fresh
  have hnew : (new.2.storedAt new.1).content = .agent {} := by rw [storedAt_addProperty]; rfl
  have hlink : Agent.declaresLink (new.2.parametersAt c) = true := by
    rwa [parametersAt_addProperty hc]
  have hread : read = _ := readText_of_declaresLink hid hnew hlink text version mode
  rw [hread]
  exact ⟨rfl, content_setContent (lt_size_install hid c) _⟩

theorem readsCard (h : Agent.declaresLink (s.parametersAt c) = false) : s.ReadsCard c := by
  intro text version mode new read
  have hid : new.1.index < new.2.properties.size := lt_size_addProperty s Agent.fresh
  have hnew : (new.2.storedAt new.1).content = .agent {} := by rw [storedAt_addProperty]; rfl
  have hcard : Agent.declaresLink (new.2.parametersAt c) = false := by
    rwa [parametersAt_addProperty hc]
  have hread : read = _ := readText_of_not_declaresLink hid hnew hcard text version mode
  rw [hread]
  refine ⟨_, rfl, fun card => ?_⟩
  have hinstall := lt_size_install hid c
  rw [inject_of_agent (content_setContent hinstall _)]
  exact content_setContent (lt_size_setContent hinstall _) _

end

/-- **An agent survives a write and a read in both of its forms.** The written parameters and the
written text agree on the form, whatever the parameters declared before: a link is read back with
its line breaks normalised, a card is handed out and asked for again, and an agent without either
is left out, which is also when it is found empty. -/
theorem readsLink_or_readsCard_of_written (s : Store) (id : PropertyId) (a : Agent)
    (h : (s.storedAt id).content = .agent a) (version : Version) (mode : Mode)
    (card : Option CardId) :
    let copy := s.writeParameters id version mode card
    let text := copy.2.writeText id version mode
    (∀ url, a.url = some url → ∃ t, text.1 = .ok t ∧
      text.2.ReadsLink copy.1 t (Text.normalizeBreaks url)) ∧
    (∀ k, a.url = none → a.card = some k →
      text.1 = .error (.embedded ⟨some k, none⟩) ∧ text.2.ReadsCard copy.1) ∧
    (a.url = none → a.card = none → ∃ reason, text.1 = .error (.skip reason)) ∧
    ∀ (v : Version) (k : Option Card), (∃ reason, text.1 = .error (.skip reason)) ↔
      ∃ w ∈ Content.findings (s.propertyAt id) v k, w.kind = .valueEmpty := by
  intro copy text
  have htext : text.1 = _ := @writeText_of_agent copy.2 id a h version mode
  have hdeclared : Agent.declaresLink (text.2.parametersAt copy.1) = a.url.isSome :=
    declaresLink_writeParameters h version mode card
  have hcopy : copy.1.index < text.2.parameters.size :=
    (size_writeParametersBy _ _ s).symm ▸ Nat.lt_succ_self _
  refine ⟨fun url hurl => ?_, fun k hurl hk => ?_, fun hurl hk => ?_, fun v k => ?_⟩
  · rw [hurl] at htext hdeclared
    refine ⟨Text.escape url, htext, ?_⟩
    have hread := readsLink hcopy hdeclared (Text.escape url)
    rwa [Text.unescape_escape] at hread
  · rw [hurl, hk] at htext
    rw [hurl] at hdeclared
    exact ⟨htext, readsCard hcopy hdeclared⟩
  · rw [hurl, hk] at htext
    exact ⟨_, htext⟩
  · rw [htext, exists_valueEmpty_iff h]
    obtain ⟨_ | url, _ | card⟩ := a <;> simp

/-- A link goes before a card, also where the parameters declared a text. -/
theorem readsLink_of_written_stale :
    let s := (initial.addProperty
      { typeName := "AGENT", parameters := Parameters.empty.put "VALUE" "text"
        content := .agent ⟨some "cid:a;\r\nb", some ⟨0⟩⟩ }).2
    let copy := s.writeParameters ⟨0⟩ .v3_0 .rfc none
    let text := copy.2.writeText ⟨0⟩ .v3_0 .rfc
    (s.storedAt ⟨0⟩).content = .agent ⟨some "cid:a;\r\nb", some ⟨0⟩⟩ ∧
      ∃ t, text.1 = .ok t ∧ text.2.ReadsLink copy.1 t "cid:a;\nb" := by
  intro s copy text
  have hnormal : Text.normalizeBreaks "cid:a;\r\nb" = "cid:a;\nb" := by decide
  have hread := (readsLink_or_readsCard_of_written s ⟨0⟩ ⟨some "cid:a;\r\nb", some ⟨0⟩⟩ rfl
    .v3_0 .rfc none).1 "cid:a;\r\nb" rfl
  rw [hnormal] at hread
  exact ⟨rfl, hread⟩

end Store

end VCardKit
