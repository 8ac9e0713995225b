/-
  Nested cards over whole runs. Documents are read into one store, property by property, and any
  number of agents may wait for their cards at once; the cards are handed over in any order, each to
  the request of one answer. A reading makes a property that no earlier answer has, and what it asks
  for goes to that property alone (`readsNew`). So every answer keeps a property of its own, and an
  agent has the card that was handed over last for its answer, and nothing else
  (`own_card_of_each_answer`).
-/
import VCardKit.Proofs.Property.CardRequest
import VCardKit.Store.Reading

namespace VCardKit

/-! ## Outcomes that ask for a card -/

theorem Reading.eq_embedded_of_capture {a : Attempt Failure AnyProperty (List String)}
    {e : Embedded}
    (h : (capture a).result = .ok (.embedded e)) : a.result = .error (.embedded e) := by
  obtain ⟨result, state⟩ := a
  simp only [capture, Outcome.ofResult] at h
  split at h <;> simp at h
  rw [h]

theorem Outcome.resolve_eq_embedded {id : PropertyId} {o : Outcome} {e : Embedded}
    (h : o.resolve id = .embedded e) : ∃ asked, o = .embedded asked ∧ asked.resolve id = e := by
  cases o with
  | embedded asked => exact ⟨asked, rfl, Outcome.embedded.inj h⟩
  | _ => cases h

/-! ## Reading one new property -/

/-- What one reading of a new property is given. -/
inductive NewReading where
  | text (registry : RegistryId) (config : Config) (name : String) (parameters : ParametersId)
      (value : String) (version : Option Version) (group : Option String)
  | xml (registry : RegistryId) (config : Config) (root : Xml.Root) (parameters : ParametersId)
      (version : Version)
  | json (registry : RegistryId) (name : String) (parameters : ParametersId)
      (value : TaggedValue) (version : Version)
  | html (registry : RegistryId) (name : String) (node : Html.PageNode)

namespace NewReading

/-- The group of the property; only content lines have one. -/
def group : NewReading → Option String
  | text _ _ _ _ _ _ group => group
  | _ => none

/-- The container of the property: the given one, or one more for a page. -/
def container (s : Store) : NewReading → ParametersId
  | text _ _ _ parameters _ _ _ => parameters
  | xml _ _ _ parameters _ => parameters
  | json _ _ parameters _ _ => parameters
  | html _ _ _ => ⟨s.parameters.size⟩

/-- The store with that container. -/
def ready (s : Store) : NewReading → Store
  | html _ _ _ => (s.addParameters .empty).2
  | _ => s

/-- The property that the registry makes. -/
def property (s : Store) : NewReading → AnyProperty
  | text registry _ name _ _ _ group => { (s.registryAt registry).create name with group }
  | xml registry _ root _ _ =>
    (s.registryAt registry).createForXml (Xml.splitTag root.tag).1 (Xml.splitTag root.tag).2
  | json registry name _ _ _ => (s.registryAt registry).create name
  | html registry name _ => (s.registryAt registry).create name

/-- What that property reads. -/
def call (s : Store) : NewReading → ReadCall
  | text _ config _ parameters value version _ =>
    .text (s.parametersAt parameters) value (version.getD config.defaultVersion) config.mode
  | xml _ config root parameters version =>
    .xml (s.parametersAt parameters) root version config.mode
  | json _ _ parameters value version => .json (s.parametersAt parameters) value version
  | html _ _ node => .html node

variable (s : Store) (q : NewReading)

theorem properties_ready : (q.ready s).properties = s.properties := by
  cases q <;> rfl

theorem parametersAt_ready (c : ParametersId) : (q.ready s).parametersAt c = s.parametersAt c := by
  cases q with
  | html registry name node => exact Containers.get_add_empty s.parameters c.index
  | _ => rfl

theorem group_property : (q.property s).group = q.group := by
  cases q with
  | text registry config name parameters value version group => rfl
  | _ => exact AnyProperty.group_newProperty _ _

theorem isBlank_property : (q.property s).IsBlank := by
  cases q <;> exact AnyProperty.isBlank_newProperty _ _

end NewReading

namespace Store

theorem parametersAt_inject (s : Store) (e : Embedded) (card : CardId) (c : ParametersId) :
    (s.inject e card).parametersAt c = s.parametersAt c := by
  rw [inject]
  split
  · rw [attachCard]
    split <;> rfl
  · rfl

/-- Reads one new property. -/
def readNew (s : Store) : NewReading → ReadResult × Store
  | .text registry config name parameters value version group =>
    s.readNewText registry config name parameters value version group
  | .xml registry config root parameters version =>
    s.readNewXml registry config root parameters version
  | .json registry name parameters value version =>
    s.readNewJson registry name parameters value version
  | .html registry name node => s.readNewHtml registry name node

theorem readNew_eq (s : Store) (q : NewReading) :
    s.readNew q = (q.ready s).adopt (q.container s)
      (Reading.capture ((q.property s).read (q.call s))) := by
  cases q <;> rfl

/-- What comes of reading a new property: a failure, which adds none, or an answer with one more
property. If it asks for a card, that property is an agent that has nothing but the group and the
container of the reading, and the card is for itself. -/
inductive ReadsNew (s : Store) (q : NewReading) : ReadResult × Store → Prop where
  | failure (f : Failure) : ReadsNew s q (.error f, q.ready s)
  | answer (p : StoredProperty) (outcome : Outcome)
      (asks : ∀ e, outcome = .embedded e → e = ⟨none, some (.property ⟨s.properties.size⟩)⟩ ∧
        p = ⟨"AGENT", q.group, q.container s, .agent {}⟩) :
      ReadsNew s q
        (.ok (⟨s.properties.size⟩, outcome), { q.ready s with properties := s.properties.add p })

theorem readsNew (s : Store) (q : NewReading) : s.ReadsNew q (s.readNew q) := by
  rw [readNew_eq, adopt]
  split
  · next f hf => exact .failure f
  · next outcome houtcome =>
    simp only [addPropertyWith, addStored, NewReading.properties_ready]
    refine .answer _ _ fun e he => ?_
    -- The property asks for whoever reads, and only the store knows which one that is.
    obtain ⟨asked, rfl, rfl⟩ := Outcome.resolve_eq_embedded he
    obtain ⟨rfl, hname, hcontent⟩ := AnyProperty.of_asks (q.isBlank_property s)
      (Reading.eq_embedded_of_capture houtcome)
    have hgroup : ((q.property s).read (q.call s)).state.group = q.group :=
      (Property.group_read _ _).trans (q.group_property s)
    refine ⟨rfl, ?_⟩
    simp only [Reading.capture, hname, hgroup, hcontent]

namespace ReadsNew

variable {s : Store} {q : NewReading} {x : ReadResult × Store} (h : s.ReadsNew q x)

include h

theorem size_le : s.properties.size ≤ x.2.properties.size := by
  cases h with
  | failure f => rw [NewReading.properties_ready]
  | answer p outcome asks =>
    rw [Table.size_add]
    exact Nat.le_succ _

theorem storedAt {id : PropertyId} (hid : id.index < s.properties.size) :
    x.2.storedAt id = s.storedAt id := by
  cases h with
  | failure f => rw [Store.storedAt, NewReading.properties_ready, Store.storedAt]
  | answer p outcome asks => exact Table.get_add_of_lt hid p

theorem parametersAt (c : ParametersId) : x.2.parametersAt c = s.parametersAt c := by
  cases h <;> exact q.parametersAt_ready s c

end ReadsNew

end Store

/-! ## Runs -/

/-- A reading that came to an outcome, and what the reading was given for the property. -/
structure Answer where
  id : PropertyId
  outcome : Outcome
  group : Option String
  parameters : ParametersId

/-- A step in a run of readings. -/
inductive ReadingStep where
  | read (q : NewReading)
  | handOver (k : Nat) (card : CardId)
  | addContainer (content : Parameters)
  | setContainer (c : ParametersId) (content : Parameters)

/-- A run of readings: the store, and what happened so far. -/
structure ReadingRun where
  store : Store
  /-- The answers, in their order. -/
  answers : List Answer := []
  /-- The cards that were handed over, each with the place of its answer, the latest first. -/
  handed : List (Nat × CardId) := []

namespace ReadingRun

/-- The request for a card in the answer at a place. -/
def request? (r : ReadingRun) (k : Nat) : Option Embedded :=
  (r.answers[k]?).bind fun a => a.outcome.embedded?

/-- The run after a reading, given its result and the store that it left. -/
def afterRead (r : ReadingRun) (q : NewReading) : Store.ReadResult × Store → ReadingRun
  | (.ok (id, outcome), store) =>
    { r with store, answers := r.answers ++ [⟨id, outcome, q.group, q.container r.store⟩] }
  | (.error _, store) => { r with store }

/-- The run after a step. A card can only be handed over where an answer asks for one. -/
def after (r : ReadingRun) : ReadingStep → ReadingRun
  | .read q => r.afterRead q (r.store.readNew q)
  | .handOver k card =>
    match r.request? k with
    | some e => { r with store := r.store.inject e card, handed := (k, card) :: r.handed }
    | none => r
  | .addContainer content => { r with store := (r.store.addParameters content).2 }
  | .setContainer c content => { r with store := r.store.setParameters c content }

/-- The property of an answer that asks for a card: an agent without a link, with the card that was
handed over last. -/
def agentOf (r : ReadingRun) (k : Nat) (a : Answer) : StoredProperty :=
  ⟨"AGENT", a.group, a.parameters, .agent ⟨none, r.handed.lookup k⟩⟩

/-- What holds throughout a run: each answer has a property of its own, and where it asks for a
card, it asks for that property, which is the agent that the cards so far tell. -/
structure Keeps (r : ReadingRun) : Prop where
  lt_size : ∀ a ∈ r.answers, a.id.index < r.store.properties.size
  nodup : (r.answers.map Answer.id).Nodup
  handed : ∀ h ∈ r.handed, h.1 < r.answers.length
  asks : ∀ k a e, r.answers[k]? = some a → a.outcome = .embedded e →
    e = ⟨none, some (.property a.id)⟩ ∧ r.store.storedAt a.id = r.agentOf k a

variable {r : ReadingRun}

theorem request?_eq_some {k : Nat} {e : Embedded} :
    r.request? k = some e ↔ ∃ a, r.answers[k]? = some a ∧ a.outcome = .embedded e := by
  rw [request?, Option.bind_eq_some_iff]
  refine exists_congr fun a => and_congr_right fun _ => ?_
  cases a.outcome <;> simp [Outcome.embedded?]

namespace Keeps

/-- No two answers share a property. -/
theorem eq_of_id_eq (h : r.Keeps) {j k : Nat} {a b : Answer} (ha : r.answers[j]? = some a)
    (hb : r.answers[k]? = some b) (hid : a.id = b.id) : j = k := by
  have hj : j < (r.answers.map Answer.id).length := by
    rw [List.length_map]
    exact (List.getElem?_eq_some_iff.1 ha).1
  refine (List.getElem?_inj hj h.nodup).1 ?_
  rw [List.getElem?_map, List.getElem?_map, ha, hb, Option.map_some, Option.map_some, hid]

/-- A card goes to the agent of its answer. -/
theorem inject_eq (h : r.Keeps) {k : Nat} {a : Answer} {e : Embedded}
    (ha : r.answers[k]? = some a) (he : a.outcome = .embedded e) (card : CardId) :
    r.store.inject e card = r.store.setContent a.id (.agent ⟨none, some card⟩) := by
  obtain ⟨rfl, hstored⟩ := h.asks k a e ha he
  exact Store.inject_of_agent (congrArg StoredProperty.content hstored) card

/-- A step other than a card for an answer leaves the property of that answer alone. -/
theorem storedAt_after (h : r.Keeps) {step : ReadingStep} {k : Nat} {a : Answer}
    (ha : r.answers[k]? = some a) (hstep : ∀ card, step ≠ .handOver k card) :
    (r.after step).store.storedAt a.id = r.store.storedAt a.id := by
  cases step with
  | read q =>
    have hread := r.store.readsNew q
    have hid := h.lt_size a (List.mem_of_getElem? ha)
    rw [after]
    generalize r.store.readNew q = x at hread
    have hstored := hread.storedAt hid
    cases hread <;> exact hstored
  | handOver j card =>
    rw [after]
    split
    · next e he =>
      obtain ⟨b, hb, hbe⟩ := request?_eq_some.1 he
      rw [h.inject_eq hb hbe]
      refine Store.storedAt_setContent_of_ne (fun hid => hstep card ?_) _
      rw [h.eq_of_id_eq hb ha (congrArg PropertyId.mk hid)]
    · rfl
  | addContainer content => rfl
  | setContainer c content => rfl

/-- A change of the store that leaves the properties of the answers alone. -/
theorem frame (h : r.Keeps) {store : Store}
    (hsize : r.store.properties.size ≤ store.properties.size)
    (hframe : ∀ a ∈ r.answers, store.storedAt a.id = r.store.storedAt a.id) :
    Keeps { r with store } where
  lt_size a ha := (h.lt_size a ha).trans_le hsize
  nodup := h.nodup
  handed := h.handed
  asks k a e ha he := by
    obtain ⟨heq, hstored⟩ := h.asks k a e ha he
    exact ⟨heq, (hframe a (List.mem_of_getElem? ha)).trans hstored⟩

/-- The cards so far were handed over for the answers so far. -/
theorem lookup_eq_none (h : r.Keeps) : r.handed.lookup r.answers.length = none := by
  rw [List.lookup_eq_none_iff]
  intro p hp
  simpa using (h.handed p hp).ne'

/-- One more answer, with a property that was added for it. -/
theorem answer (h : r.Keeps) {new : Answer} {store : Store}
    (hid : new.id = ⟨r.store.properties.size⟩)
    (hsize : store.properties.size = r.store.properties.size + 1)
    (hframe : ∀ a ∈ r.answers, store.storedAt a.id = r.store.storedAt a.id)
    (hasks : ∀ e, new.outcome = .embedded e → e = ⟨none, some (.property new.id)⟩ ∧
      store.storedAt new.id = ⟨"AGENT", new.group, new.parameters, .agent {}⟩) :
    Keeps { r with store, answers := r.answers ++ [new] } where
  lt_size a ha := by
    rw [hsize]
    rcases List.mem_append.1 ha with ha | ha
    · exact (h.lt_size a ha).trans (Nat.lt_succ_self _)
    · rw [List.mem_singleton.1 ha, hid]
      exact Nat.lt_succ_self _
  nodup := by
    rw [List.map_append, List.map_singleton, hid]
    refine List.nodup_append.2 ⟨h.nodup, List.nodup_singleton _, fun x hx y hy hxy => ?_⟩
    obtain ⟨a, ha, rfl⟩ := List.mem_map.1 hx
    rw [List.mem_singleton.1 hy] at hxy
    exact (h.lt_size a ha).ne (congrArg PropertyId.index hxy)
  handed p hp := by
    rw [List.length_append]
    exact (h.handed p hp).trans_le (Nat.le_add_right _ _)
  asks k a e ha he := by
    rcases Nat.lt_or_ge k r.answers.length with hk | hk
    · rw [List.getElem?_append_left hk] at ha
      obtain ⟨heq, hstored⟩ := h.asks k a e ha he
      exact ⟨heq, (hframe a (List.mem_of_getElem? ha)).trans hstored⟩
    · rw [List.getElem?_append_right hk, List.getElem?_singleton] at ha
      split at ha
      · next hzero =>
        cases ha
        obtain rfl : k = r.answers.length := by omega
        rw [agentOf, h.lookup_eq_none]
        exact hasks e he
      · cases ha

theorem read (h : r.Keeps) (q : NewReading) : (r.after (.read q)).Keeps := by
  have hread := r.store.readsNew q
  rw [after]
  generalize r.store.readNew q = x at hread ⊢
  have hframe : ∀ a ∈ r.answers, x.2.storedAt a.id = r.store.storedAt a.id := fun a ha =>
    hread.storedAt (h.lt_size a ha)
  have hsize := hread.size_le
  cases hread with
  | failure f => exact h.frame hsize hframe
  | answer p outcome asks =>
    refine h.answer rfl (Table.size_add _ p) hframe fun e he => ?_
    obtain ⟨heq, hp⟩ := asks e he
    exact ⟨heq, (Table.get_add_size _ p).trans hp⟩

theorem handOver (h : r.Keeps) {k : Nat} {a : Answer} {e : Embedded}
    (ha : r.answers[k]? = some a) (he : a.outcome = .embedded e) (card : CardId) :
    Keeps { r with store := r.store.inject e card, handed := (k, card) :: r.handed } := by
  have hid := h.lt_size a (List.mem_of_getElem? ha)
  rw [h.inject_eq ha he]
  refine ⟨fun b hb => ?_, h.nodup, fun p hp => ?_, fun j b e' hb he' => ?_⟩
  · rw [Store.setContent, Store.setStored, Table.size_set]
    exact h.lt_size b hb
  · rcases List.mem_cons.1 hp with rfl | hp
    · exact (List.getElem?_eq_some_iff.1 ha).1
    · exact h.handed p hp
  · obtain ⟨heq, hstored⟩ := h.asks j b e' hb he'
    refine ⟨heq, ?_⟩
    -- The card takes the place of the earlier one of its answer, and of no other.
    by_cases hj : j = k
    · subst hj
      obtain rfl : a = b := Option.some.inj (ha.symm.trans hb)
      rw [Store.storedAt_setContent hid, hstored]
      simp only [agentOf, List.lookup_cons_self]
    · have hne : a.id.index ≠ b.id.index := fun hindex =>
        hj (h.eq_of_id_eq hb ha (congrArg PropertyId.mk hindex.symm))
      have hkey : (j == k) = false := beq_false_of_ne hj
      rw [Store.storedAt_setContent_of_ne hne, hstored]
      simp only [agentOf, List.lookup_cons, hkey]

theorem after (h : r.Keeps) (step : ReadingStep) : (r.after step).Keeps := by
  cases step with
  | read q => exact h.read q
  | handOver k card =>
    rw [ReadingRun.after]
    split
    · next e he =>
      obtain ⟨a, ha, hae⟩ := request?_eq_some.1 he
      exact h.handOver ha hae card
    · exact h
  | addContainer content => exact h.frame le_rfl fun _ _ => rfl
  | setContainer c content => exact h.frame le_rfl fun _ _ => rfl

end Keeps

/-- The run from a store. -/
def ofSteps (s : Store) (steps : List ReadingStep) : ReadingRun :=
  steps.foldl after { store := s }

theorem keeps_ofSteps (s : Store) (steps : List ReadingStep) : (ofSteps s steps).Keeps := by
  have hstart : Keeps { store := s } :=
    ⟨nofun, List.nodup_nil, nofun, fun _ _ _ ha => absurd ha (by simp)⟩
  rw [ofSteps]
  generalize (ReadingRun.mk s [] []) = r at hstart ⊢
  induction steps generalizing r with
  | nil => exact hstart
  | cons step steps ih => exact ih _ (hstart.after step)

/-- A step keeps the answers so far. -/
theorem getElem?_answers_after (r : ReadingRun) (step : ReadingStep) {k : Nat} {a : Answer}
    (ha : r.answers[k]? = some a) : (r.after step).answers[k]? = some a := by
  cases step with
  | read q =>
    rw [after]
    rcases r.store.readNew q with ⟨f | ⟨id, outcome⟩, store⟩
    · exact ha
    · exact (List.getElem?_append_left (List.getElem?_eq_some_iff.1 ha).1).trans ha
  | handOver j card =>
    rw [after]
    split <;> exact ha
  | addContainer content => exact ha
  | setContainer c content => exact ha

/-- Only a change that is made to a container shows in it. -/
theorem parametersAt_after (r : ReadingRun) {step : ReadingStep} {c : ParametersId}
    (hadd : ∀ content, step ≠ .addContainer content)
    (hset : ∀ content, step ≠ .setContainer c content) :
    (r.after step).store.parametersAt c = r.store.parametersAt c := by
  cases step with
  | read q =>
    have hread := (r.store.readsNew q).parametersAt c
    rw [after]
    generalize r.store.readNew q = x at hread ⊢
    rcases x with ⟨f | ⟨id, outcome⟩, store⟩ <;> exact hread
  | handOver k card =>
    rw [after]
    split
    · exact Store.parametersAt_inject _ _ card c
    · rfl
  | addContainer content => exact absurd rfl (hadd content)
  | setContainer other content =>
    have hne : other.index ≠ c.index := by
      intro h
      obtain rfl : other = c := congrArg ParametersId.mk h
      exact hset content rfl
    exact Containers.get_set_of_ne hne content

/-- **Nested cards reach the agents that they belong to.** After any steps: each answer that asks
for a card has an agent with the group and the container of its own reading, without a link, and
with the card that was handed over last for this answer, if any was; no two answers have the same
property; and a step other than a card for an answer changes neither the answer nor its property.
A container shows only the changes that are made to it. -/
theorem own_card_of_each_answer (s : Store) (steps : List ReadingStep) :
    let r := ofSteps s steps
    (∀ k a e, r.answers[k]? = some a → a.outcome = .embedded e →
      e = ⟨none, some (.property a.id)⟩ ∧
        r.store.storedAt a.id =
          ⟨"AGENT", a.group, a.parameters, .agent ⟨none, r.handed.lookup k⟩⟩) ∧
    (r.answers.map Answer.id).Nodup ∧
    (∀ step k a, r.answers[k]? = some a → (∀ card, step ≠ .handOver k card) →
      (r.after step).answers[k]? = some a ∧
        (r.after step).store.storedAt a.id = r.store.storedAt a.id) ∧
    ∀ step c, (∀ content, step ≠ .addContainer content) →
      (∀ content, step ≠ .setContainer c content) →
      (r.after step).store.parametersAt c = r.store.parametersAt c := by
  intro r
  have h : r.Keeps := keeps_ofSteps s steps
  refine ⟨h.asks, h.nodup, fun step k a ha hstep => ?_, fun step c hadd hset => ?_⟩
  · exact ⟨r.getElem?_answers_after step ha, h.storedAt_after ha hstep⟩
  · exact r.parametersAt_after hadd hset

/-- Two agents wait at once, and get their cards in the other order. -/
example :
    let agent := NewReading.json Store.standardRegistry "agent" ⟨0⟩ ⟨none, .single none⟩ .v4_0
    let r := ofSteps Store.initial
      [.read agent, .read agent, .handOver 1 ⟨7⟩, .handOver 0 ⟨8⟩, .handOver 1 ⟨9⟩]
    (r.store.storedAt ⟨0⟩).content = .agent ⟨none, some ⟨8⟩⟩ ∧
      (r.store.storedAt ⟨1⟩).content = .agent ⟨none, some ⟨9⟩⟩ := by
  decide +kernel

end ReadingRun

end VCardKit
