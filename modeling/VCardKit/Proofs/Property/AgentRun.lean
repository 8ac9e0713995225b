/-
  Agents over whole runs. A run starts from a new agent; its steps are calls of readers, cards that
  are handed to requests which earlier calls raised, and changes of the containers by others. A card
  that is handed over takes the place of a link, but a link that is read does not take the place of
  a card: it stands beside it. So an agent has both exactly if a link was read after a card was
  handed over (`link_and_card_iff`). That is told from the results of the calls, which a run keeps
  beside the store.
-/
import VCardKit.Proofs.Property.Agent

namespace VCardKit

/-! ## Readings of agents -/

namespace Agent

/-- What comes of a reading: a link beside the card that is there, a request for a card, or one of
two failures. -/
inductive Reads (a : Agent) : Attempt Failure Agent (List String) → Prop where
  | link (url : String) : Reads a (.done [] { a with url := some url })
  | request : Reads a (.failed (.embedded ⟨none, some .reader⟩) a)
  | badLink (error : Url.UrlError) : Reads a (.failed (.badLink error) a)
  | noAttributes : Reads a (.failed .noAttributes a)

theorem reads_readText (p : Property Agent) (value : String) (version : Version) (mode : Mode) :
    Reads p.content (readText p value version mode) := by
  rw [readText]
  split
  · exact .link _
  · exact .request

theorem reads_readHtml (p : Property Agent) (node : Html.PageNode) :
    Reads p.content (readHtml p node) := by
  obtain ⟨e | comment, address⟩ := node
  · simp only [readHtml]
    split
    · exact .request
    · split
      · exact .badLink _
      · exact .link _
  · exact .noAttributes

end Agent

namespace Property

variable {p : AnyProperty} {a : Agent} (h : p.content = .agent a)

include h

theorem exists_reads_readText (c : Parameters) (value : String) (version : Version) (mode : Mode) :
    ∃ x, a.Reads x ∧ p.readText c value version mode =
      attempt { p with parameters := c } (x.mapState .agent) := by
  obtain ⟨typeName, group, parameters, content⟩ := p
  cases h
  exact ⟨_, Agent.reads_readText ⟨typeName, group, c, a⟩ value version mode, rfl⟩

/-- A tagged value is read in its text form. -/
theorem readJson_of_agent (c : Parameters) (value : TaggedValue) (version : Version) :
    p.readJson c value version = p.readText c value.toText version .rfc := by
  obtain ⟨typeName, group, parameters, content⟩ := p
  cases h
  rfl

theorem exists_reads_readHtml (node : Html.PageNode) :
    ∃ x, a.Reads x ∧ p.readHtml node = p.attempt (x.mapState .agent) := by
  obtain ⟨typeName, group, parameters, content⟩ := p
  cases h
  exact ⟨_, Agent.reads_readHtml ⟨typeName, group, parameters, a⟩ node, rfl⟩

end Property

/-! ## Runs -/

/-- A step in a run of an agent. -/
inductive AgentStep where
  | addContainer (content : Parameters)
  | setContainer (c : ParametersId) (content : Parameters)
  | readText (c : ParametersId) (value : String) (version : Version) (mode : Mode)
  | readJson (c : ParametersId) (value : TaggedValue) (version : Version)
  | readHtml (node : Html.PageNode)
  | handOver (request : Embedded) (card : CardId)

/-- A run of an agent: the store, and what the results of the calls so far tell. -/
structure AgentRun where
  store : Store
  /-- The requests for cards that were raised. -/
  requests : List Embedded := []
  /-- Whether a card was handed over. -/
  handed : Bool := false
  /-- Whether a call succeeded, since the latest card was handed over if one was. -/
  linked : Bool := false

namespace AgentRun

/-- The run after a call, given its result and the store that it left. -/
def afterCall (r : AgentRun) : Except Failure (List String) × Store → AgentRun
  | (.ok _, store) => { r with store, linked := true }
  | (.error (.embedded e), store) => { r with store, requests := e :: r.requests }
  | (.error _, store) => { r with store }

/-- The run after a step. A card can only be handed to a request that was raised. -/
def after (id : PropertyId) (r : AgentRun) : AgentStep → AgentRun
  | .addContainer content => { r with store := (r.store.addParameters content).2 }
  | .setContainer c content => { r with store := r.store.setParameters c content }
  | .readText c value version mode => r.afterCall (r.store.readText id c value version mode)
  | .readJson c value version => r.afterCall (r.store.readJson id c value version)
  | .readHtml node => r.afterCall (r.store.readHtml id node)
  | .handOver request card =>
    if request ∈ r.requests then
      { r with store := r.store.inject request card, handed := true, linked := false }
    else r

/-- What holds throughout a run: the agent has a card if one was handed over, and a link if a call
succeeded since; and every request is for the agent itself. -/
structure Tells (id : PropertyId) (r : AgentRun) : Prop where
  lt_size : id.index < r.store.properties.size
  requests : ∀ e ∈ r.requests, e = ⟨none, some (.property id)⟩
  content : ∃ a, (r.store.storedAt id).content = .agent a ∧ a.url.isSome = r.linked ∧
    a.card.isSome = r.handed

variable {id : PropertyId} {r : AgentRun}

/-- A reading keeps the card, whatever comes of it. -/
theorem Tells.afterCall (h : r.Tells id) {a : Agent} (hurl : a.url.isSome = r.linked)
    (hcard : a.card.isSome = r.handed) {s : Store} (hid : id.index < s.properties.size)
    {x : Attempt Failure Agent (List String)} (hx : a.Reads x) (p : AnyProperty) :
    (r.afterCall (s.conclude id (p.attempt (x.mapState .agent)))).Tells id := by
  have hsize : ∀ content, id.index < (s.setContent id content).properties.size := fun content =>
    Store.lt_size_setContent hid content
  have hstored : ∀ a, ((s.setContent id (.agent a)).storedAt id).content = .agent a := fun a =>
    Store.content_setContent hid (.agent a)
  cases hx with
  | link url => exact ⟨hsize _, h.requests, _, hstored _, rfl, hcard⟩
  | request =>
    refine ⟨hsize _, fun e he => ?_, a, hstored a, hurl, hcard⟩
    rcases List.mem_cons.1 he with rfl | he
    · rfl
    · exact h.requests e he
  | badLink error => exact ⟨hsize _, h.requests, a, hstored a, hurl, hcard⟩
  | noAttributes => exact ⟨hsize _, h.requests, a, hstored a, hurl, hcard⟩

theorem Tells.readText (h : r.Tells id) (c : ParametersId) (value : String) (version : Version)
    (mode : Mode) : (r.afterCall (r.store.readText id c value version mode)).Tells id := by
  obtain ⟨a, ha, hurl, hcard⟩ := h.content
  have hp : ((r.store.install id c).propertyAt id).content = .agent a := by
    rwa [Store.propertyAt_install h.lt_size]
  obtain ⟨x, hx, hread⟩ :=
    Property.exists_reads_readText hp (r.store.parametersAt c) value version mode
  have hstore : r.store.readText id c value version mode = _ :=
    congrArg ((r.store.install id c).conclude id) hread
  rw [hstore]
  exact h.afterCall hurl hcard (Store.lt_size_install h.lt_size c) hx _

theorem Tells.readJson (h : r.Tells id) (c : ParametersId) (value : TaggedValue)
    (version : Version) : (r.afterCall (r.store.readJson id c value version)).Tells id := by
  obtain ⟨a, ha, -, -⟩ := h.content
  have hp : ((r.store.install id c).propertyAt id).content = .agent a := by
    rwa [Store.propertyAt_install h.lt_size]
  have hstore : r.store.readJson id c value version =
      r.store.readText id c value.toText version .rfc :=
    congrArg ((r.store.install id c).conclude id) (Property.readJson_of_agent hp _ value version)
  rw [hstore]
  exact h.readText c value.toText version .rfc

theorem Tells.readHtml (h : r.Tells id) (node : Html.PageNode) :
    (r.afterCall (r.store.readHtml id node)).Tells id := by
  obtain ⟨a, ha, hurl, hcard⟩ := h.content
  have hp : (r.store.propertyAt id).content = .agent a := ha
  obtain ⟨x, hx, hread⟩ := Property.exists_reads_readHtml hp node
  rw [Store.readHtml, hread]
  exact h.afterCall hurl hcard h.lt_size hx _

/-- A card that is handed over is all that the agent has. -/
theorem Tells.handOver (h : r.Tells id) {request : Embedded} (hmem : request ∈ r.requests)
    (card : CardId) : Tells id { r with
      store := r.store.inject request card, handed := true, linked := false } := by
  obtain ⟨a, ha, -, -⟩ := h.content
  have hstore : r.store.inject request card =
      r.store.setContent id (.agent ⟨none, some card⟩) := by
    rw [h.requests request hmem, Store.inject_of_agent ha]
  rw [hstore]
  exact ⟨Store.lt_size_setContent h.lt_size _, h.requests, _,
    Store.content_setContent h.lt_size _, rfl, rfl⟩

theorem Tells.after (h : r.Tells id) (step : AgentStep) : (r.after id step).Tells id := by
  cases step with
  | addContainer content => exact ⟨h.lt_size, h.requests, h.content⟩
  | setContainer c content => exact ⟨h.lt_size, h.requests, h.content⟩
  | readText c value version mode => exact h.readText c value version mode
  | readJson c value version => exact h.readJson c value version
  | readHtml node => exact h.readHtml node
  | handOver request card =>
    rw [AgentRun.after]
    split
    · next hmem => exact h.handOver hmem card
    · exact h

/-- The run of a new agent in a store. -/
def ofSteps (s : Store) (steps : List AgentStep) : AgentRun :=
  let new := s.addProperty Agent.fresh
  steps.foldl (after new.1) { store := new.2 }

theorem tells_ofSteps (s : Store) (steps : List AgentStep) :
    (ofSteps s steps).Tells (s.addProperty Agent.fresh).1 := by
  have hstart : Tells (s.addProperty Agent.fresh).1 { store := (s.addProperty Agent.fresh).2 } := by
    refine ⟨Store.lt_size_addProperty s Agent.fresh, nofun, {}, ?_, rfl, rfl⟩
    rw [Store.storedAt_addProperty]
    rfl
  rw [ofSteps]
  generalize (AgentRun.mk (s.addProperty Agent.fresh).2 [] false false) = r at hstart ⊢
  induction steps generalizing r with
  | nil => exact hstart
  | cons step steps ih => exact ih _ (hstart.after step)

/-- **When an agent has a link and a card.** After any steps, an agent that was new has a card
exactly if one was handed over, and a link exactly if a call succeeded since. So it has one of them
at most unless a call succeeded after a card was handed over. -/
theorem link_and_card_iff (s : Store) (steps : List AgentStep) :
    let r := ofSteps s steps
    ∃ a, (r.store.storedAt (s.addProperty Agent.fresh).1).content = .agent a ∧
      a.url.isSome = r.linked ∧ a.card.isSome = r.handed ∧
      (a.url = none ∨ a.card = none ↔ ¬ (r.handed = true ∧ r.linked = true)) := by
  intro r
  obtain ⟨a, ha, hurl, hcard⟩ := (tells_ofSteps s steps).content
  refine ⟨a, ha, hurl, hcard, ?_⟩
  rw [← Option.not_isSome_iff_eq_none, ← Option.not_isSome_iff_eq_none, hurl, hcard]
  tauto

/-- An agent asks for a card, is handed one, and reads a link. -/
theorem link_beside_card :
    let new := (Store.initial.addCard {}).2.addProperty Agent.fresh
    let r := ofSteps (Store.initial.addCard {}).2
      [.readText ⟨0⟩ "x" .v3_0 .rfc, .handOver ⟨none, some (.property new.1)⟩ ⟨0⟩,
        .addContainer (Parameters.empty.put "VALUE" "uri"), .readText ⟨1⟩ "cid:b" .v3_0 .rfc]
    (r.store.storedAt new.1).content = .agent ⟨some "cid:b", some ⟨0⟩⟩ := by
  decide +kernel

end AgentRun

end VCardKit
