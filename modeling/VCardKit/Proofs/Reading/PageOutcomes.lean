/-
  What comes of reading one element of a web page with the registry of the standard properties. The
  table is complete (`PageOutcome`): an agent asks for a card where the element is one, every other
  property reads the element. There is one exception. The link of an agent is resolved against the
  address of the page, and a link that is refused is a failure that reaches the caller; no outcome
  stands for it. Where neither the link nor the address holds a bracket or a hidden delimiter, there
  always is an outcome (`PageOutcome.returns_of_isPlain`).
-/
import VCardKit.Proofs.Reading.Outcomes
import VCardKit.Proofs.Url.Reference

namespace VCardKit

/-! ## Links of pages -/

namespace Html

theorem PageNode.resolve_eq_error_iff {node : PageNode} {link : String} {error : Url.UrlError} :
    node.resolve link = .error error ↔
      Url.Refuses (.ofList (Url.untilNull (node.address.getD ""))) link error := by
  rw [resolve]
  split
  · next hempty => simp [Url.Refuses, hempty]
  · exact Url.resolve_eq_error_iff

/-- Whether the link of an element is refused on a page. -/
def Element.RefusesLink (e : Element) (address : Option String) (error : Url.UrlError) : Prop :=
  Url.Refuses (.ofList (Url.untilNull (address.getD ""))) (e.attr "href") error

theorem Element.refusesLink_iff {e : Element} {address : Option String} {error : Url.UrlError} :
    e.RefusesLink address error ↔
      PageNode.resolve ⟨.element e, address⟩ (e.attr "href") = .error error := by
  rw [PageNode.resolve_eq_error_iff, RefusesLink]

/-- A link is refused for one reason. -/
theorem Element.RefusesLink.unique {e : Element} {address : Option String}
    {error error' : Url.UrlError} (h : e.RefusesLink address error)
    (h' : e.RefusesLink address error') : error = error' := by
  rw [refusesLink_iff] at h h'
  exact Except.error.inj (h.symm.trans h')

end Html

/-! ## Results by content -/

/-- The results of reading an element of a page: a request for a card and a refused link where an
agent is read, and no failure elsewhere. -/
inductive ReadsPage (isAgent : Prop) (e : Html.Element) (address : Option String) :
    Except Failure (List String) → Prop where
  | card (h : isAgent) (hcard : e.hasClass "vcard" = true) :
    ReadsPage isAgent e address (.error (.embedded ⟨none, some .reader⟩))
  | badLink {error : Url.UrlError} (h : isAgent) (hcard : e.hasClass "vcard" = false)
    (hlink : e.RefusesLink address error) : ReadsPage isAgent e address (.error (.badLink error))
  | read (h : isAgent → e.hasClass "vcard" = false ∧ ∀ error, ¬ e.RefusesLink address error) :
    ReadsPage isAgent e address (.ok [])

theorem Agent.readsPage_readHtml {isAgent : Prop} (h : isAgent) (p : Property Agent)
    (e : Html.Element) (address : Option String) :
    ReadsPage isAgent e address (readHtml p ⟨.element e, address⟩).result := by
  simp only [readHtml]
  split
  · next hcard => exact .card h hcard
  · next hcard =>
    have hclass : e.hasClass "vcard" = false := Bool.eq_false_of_not_eq_true hcard
    split
    · next error hresolve =>
      exact .badLink h hclass (Html.Element.refusesLink_iff.2 hresolve)
    · next url hresolve =>
      refine .read fun _ => ⟨hclass, fun error hlink => ?_⟩
      rw [Html.Element.refusesLink_iff, hresolve] at hlink
      exact absurd hlink nofun

theorem Property.readsPage_readHtml {p : AnyProperty} (h : p.content.IsStandard)
    (e : Html.Element) (address : Option String) :
    ReadsPage (p.kind = .agent) e address (p.readHtml ⟨.element e, address⟩).result := by
  obtain ⟨typeName, group, parameters, content⟩ := p
  cases h with
  | text kind _ => cases kind <;> exact .read nofun
  | categories _ => exact .read nofun
  | gender _ => exact .read nofun
  | raw _ => exact .read nofun
  | agent a => exact Agent.readsPage_readHtml rfl ⟨typeName, group, parameters, a⟩ e address

namespace Reading

open Registry (standard)

/-! ## The table -/

/-- Whether an element is the card of the agent that it is read into. -/
def IsCard (name : String) (e : Html.Element) : Prop :=
  Text.upper name = "AGENT" ∧ e.hasClass "vcard" = true

/-- Whether an element links to the agent that it is read into by a link that is refused. -/
def HasBadLink (name : String) (e : Html.Element) (address : Option String)
    (error : Url.UrlError) : Prop :=
  Text.upper name = "AGENT" ∧ e.hasClass "vcard" = false ∧ e.RefusesLink address error

/-- The outcome of an element of a page, unless its link is refused. -/
structure PageOutcome (name : String) (e : Html.Element) (address : Option String)
    (a : Attempt Failure AnyProperty Outcome) : Prop extends Shows name a where
  failure_iff : ∀ f, a.result = .error f ↔ ∃ error, f = .badLink error ∧
    HasBadLink name e address error
  embedded_iff : (∃ v, a.result = .ok (.embedded v)) ↔ IsCard name e
  ok_iff : (∃ w, a.result = .ok (.ok w)) ↔
    ¬ IsCard name e ∧ ∀ error, ¬ HasBadLink name e address error

theorem pageOutcome_capture {name : String} {e : Html.Element} {address : Option String}
    {a : Attempt Failure AnyProperty (List String)} (hname : a.state.typeName = Text.upper name)
    (h : ReadsPage (Text.upper name = "AGENT") e address a.result) :
    PageOutcome name e address (capture a) := by
  obtain ⟨result, state⟩ := a
  cases h with
  | card hagent hcard =>
    have hcapture : (capture ⟨.error (.embedded ⟨none, some .reader⟩), state⟩).result =
      .ok (.embedded ⟨none, some .reader⟩) := rfl
    exact {
      toShows := shows_capture hname nofun
      failure_iff := by simp [hcapture, HasBadLink, hcard]
      embedded_iff := by simp [hcapture, IsCard, hagent, hcard]
      ok_iff := by simp [hcapture, IsCard, hagent, hcard] }
  | badLink hagent hcard hlink =>
    next error =>
    have hcapture : (capture ⟨.error (.badLink error), state⟩).result =
      .error (.badLink error) := rfl
    have hbad : HasBadLink name e address error := ⟨hagent, hcard, hlink⟩
    refine {
      toShows := shows_capture hname (by simp)
      failure_iff := fun f => ⟨fun hf => ⟨error, ?_, hbad⟩, ?_⟩
      embedded_iff := by simp [hcapture, IsCard, hcard]
      ok_iff := by simpa [hcapture] using fun _ => ⟨error, hbad⟩ }
    · exact (Except.error.inj hf).symm
    · rintro ⟨error', rfl, -, -, hlink'⟩
      rw [hlink'.unique hlink, hcapture]
  | read h =>
    have hcapture : (capture ⟨.ok [], state⟩).result = .ok (.ok []) := rfl
    have hcard : ¬ IsCard name e := by
      rintro ⟨hagent, hcard⟩
      exact absurd hcard (Bool.eq_false_iff.1 (h hagent).1)
    have hlink : ∀ error, ¬ HasBadLink name e address error := by
      rintro error ⟨hagent, -, hlink⟩
      exact (h hagent).2 error hlink
    exact {
      toShows := shows_capture hname nofun
      failure_iff := by simp [hcapture, hlink]
      embedded_iff := by simp [hcapture, hcard]
      ok_iff := by simp [hcapture, hcard, hlink] }

/-- An element always comes to an outcome where its link and the address hold neither a bracket nor
a hidden delimiter. -/
theorem PageOutcome.returns_of_isPlain {name : String} {e : Html.Element}
    {address : Option String} {a : Attempt Failure AnyProperty Outcome}
    (h : PageOutcome name e address a) (haddress : Url.IsPlain (Url.untilNull (address.getD "")))
    (hlink : Url.IsPlain (e.attr "href").toList) : ∃ o, a.result = .ok o := by
  cases hresult : a.result with
  | ok o => exact ⟨o, rfl⟩
  | error f =>
    obtain ⟨error, -, -, -, hrefused⟩ := (h.failure_iff f).1 hresult
    refine absurd hrefused (Url.not_refuses_of_isPlain ?_ hlink error)
    rwa [String.toList_ofList]

/-- **The outcomes of elements of web pages.** With the standard registry, every element of every
page comes to an outcome, unless it is read into an agent, is no card itself and has a link that is
refused: that failure reaches the caller. Only an agent whose element is a card asks for the card;
every other property is read. -/
theorem outcomes_of_pages (name : String) (e : Html.Element) (address : Option String) :
    PageOutcome name e address (ofHtml standard name ⟨.element e, address⟩) := by
  change PageOutcome name e address
    (capture ((standard.create name).readHtml ⟨.element e, address⟩))
  refine pageOutcome_capture ?_ ?_
  · rw [Property.typeName_readHtml]
    exact Registry.typeName_create name
  rw [← kind_create_eq_agent_iff]
  exact Property.readsPage_readHtml (isStandard_create name) e address

/-- A bracket that stays open in a link keeps an agent from having an outcome. -/
theorem badLink_of_open_bracket :
    let e : Html.Element :=
      { tag := "a", attributes := [({ localName := "href" }, "http://[")], text := "Bob" }
    (ofHtml standard "AGENT" ⟨.element e, some "http://h/"⟩).result =
      .error (.badLink .misplacedBracket) := by
  decide +kernel

end Reading

end VCardKit
