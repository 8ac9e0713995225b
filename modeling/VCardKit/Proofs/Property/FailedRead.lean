/-
  Reads that fail. No reader changes a part of a content before it knows that it can read the whole:
  where a read fails, for whatever reason, the content is the one from before (`Content.Atomic`).
  The parameters that come with the value are installed first, and stay; a page brings none. In a
  store, all that a failed read leaves behind is therefore that the property refers to the given
  container (`store_eq_of_failed_read`).
-/
import VCardKit.Proofs.Store.Basic

namespace VCardKit

open Attempt

/-! ## Readers -/

/-- The readers of a content type leave the content as it was where they fail. -/
class Content.Atomic (V : Type) [Content V] : Prop where
  readText (p : Property V) (value : String) (version : Version) (mode : Mode) :
    (Content.readText p value version mode).KeepsIfFailed p.content
  readXml (p : Property V) (element : Xml.PropertyElement) (mode : Mode) :
    (Content.readXml p element mode).KeepsIfFailed p.content
  readJson (p : Property V) (value : TaggedValue) (version : Version) :
    (Content.readJson p value version).KeepsIfFailed p.content
  readHtml (p : Property V) (node : Html.PageNode) :
    (Content.readHtml p node).KeepsIfFailed p.content

open Content (Atomic)

section

variable (e : Xml.PropertyElement) (mode : Mode)

theorem TextValue.keepsIfFailed_readXml (p : Property TextValue) :
    (readXml p e mode).KeepsIfFailed p.content := by
  rw [readXml]
  split
  · exact keepsIfFailed_done
  · exact keepsIfFailed_failed

theorem Categories.keepsIfFailed_readXml (p : Property Categories) :
    (readXml p e mode).KeepsIfFailed p.content := by
  rw [readXml]
  split
  · exact keepsIfFailed_failed
  · exact keepsIfFailed_done

/-- The sex is looked for before either part is set, and an identity may be missing. -/
theorem Gender.keepsIfFailed_readXml (p : Property Gender) :
    (readXml p e mode).KeepsIfFailed p.content := by
  rw [readXml]
  split
  · exact keepsIfFailed_failed
  · exact keepsIfFailed_done

theorem RawValue.keepsIfFailed_readXml (p : Property RawValue) :
    (readXml p e mode).KeepsIfFailed p.content := by
  rw [readXml]
  split
  · exact keepsIfFailed_failed
  · exact keepsIfFailed_done

end

instance : Atomic TextValue where
  readText _ _ _ _ := keepsIfFailed_done
  readXml p e mode := TextValue.keepsIfFailed_readXml e mode p
  readJson _ _ _ := keepsIfFailed_done
  readHtml _ _ := keepsIfFailed_done

instance : Atomic Categories where
  readText _ _ _ _ := keepsIfFailed_done
  readXml p e mode := Categories.keepsIfFailed_readXml e mode p
  readJson _ _ _ := keepsIfFailed_done
  readHtml _ _ := keepsIfFailed_done

instance : Atomic Gender where
  readText _ _ _ _ := keepsIfFailed_done
  readXml p e mode := Gender.keepsIfFailed_readXml e mode p
  readJson _ _ _ := keepsIfFailed_done
  readHtml _ _ := keepsIfFailed_done

instance : Atomic RawValue where
  readText _ _ _ _ := keepsIfFailed_done
  readXml p e mode := RawValue.keepsIfFailed_readXml e mode p
  readJson _ _ _ := keepsIfFailed_done
  readHtml _ _ := keepsIfFailed_done

theorem Agent.keepsIfFailed_readText (p : Property Agent) (value : String) (version : Version)
    (mode : Mode) : (Agent.readText p value version mode).KeepsIfFailed p.content := by
  rw [Agent.readText]
  split
  · exact keepsIfFailed_done
  · exact keepsIfFailed_failed

/-- A page fails in three ways, each before the link is set. -/
theorem Agent.keepsIfFailed_readHtml (p : Property Agent) (node : Html.PageNode) :
    (Agent.readHtml p node).KeepsIfFailed p.content := by
  obtain ⟨e | comment, address⟩ := node
  · simp only [Agent.readHtml]
    split
    · exact keepsIfFailed_failed
    · split
      · exact keepsIfFailed_failed
      · exact keepsIfFailed_done
  · exact keepsIfFailed_failed

instance : Atomic Agent where
  readText := Agent.keepsIfFailed_readText
  readXml _ _ _ := keepsIfFailed_failed
  readJson p value version := Agent.keepsIfFailed_readText p value.toText version .rfc
  readHtml := Agent.keepsIfFailed_readHtml

instance : Atomic Echo where
  readText _ _ _ _ := keepsIfFailed_done
  readXml _ _ _ := keepsIfFailed_failed
  readJson _ _ _ := keepsIfFailed_done
  readHtml _ _ := keepsIfFailed_done

theorem Failing.keepsIfFailed_readText (p : Property Failing) (value : String) (version : Version)
    (mode : Mode) : (Failing.readText p value version mode).KeepsIfFailed p.content := by
  rw [Failing.readText]
  split
  · exact keepsIfFailed_failed
  · exact keepsIfFailed_done

instance : Atomic Failing where
  readText := Failing.keepsIfFailed_readText
  readXml _ _ _ := keepsIfFailed_failed
  readJson p value version := Failing.keepsIfFailed_readText p value.toText version .rfc
  readHtml p node := Failing.keepsIfFailed_readText p node.value .v3_0 .rfc

/-! ## Contents of any kind -/

theorem AnyContent.keepsIfFailed_elim
    (hook : {V : Type} → [Content V] → Property V → Attempt Failure V (List String))
    (h : ∀ {V : Type} [Content V] [Atomic V] (p : Property V), (hook p).KeepsIfFailed p.content)
    (p : AnyProperty) :
    (p.content.elim fun c wrap => (hook (p.withContent c)).mapState wrap).KeepsIfFailed
      p.content := by
  obtain ⟨typeName, group, parameters, content⟩ := p
  cases content with
  | text kind c => exact (h _).mapState (text kind)
  | categories c => exact (h _).mapState categories
  | gender kind c => exact (h _).mapState (gender kind)
  | agent c => exact (h _).mapState agent
  | raw c => exact (h _).mapState raw
  | echo c => exact (h _).mapState echo
  | failing c => exact (h _).mapState failing

instance : Atomic AnyContent where
  readText p value version mode := AnyContent.keepsIfFailed_elim
    (fun p => Content.readText p value version mode) (Atomic.readText · value version mode) p
  readXml p element mode := AnyContent.keepsIfFailed_elim
    (fun p => Content.readXml p element mode) (Atomic.readXml · element mode) p
  readJson p value version := AnyContent.keepsIfFailed_elim
    (fun p => Content.readJson p value version) (Atomic.readJson · value version) p
  readHtml p node := AnyContent.keepsIfFailed_elim
    (fun p => Content.readHtml p node) (Atomic.readHtml · node) p

/-! ## Properties -/

namespace Property

theorem keepsIfFailed_attempt {V α : Type} {p : Property V} {a : Attempt Failure V α}
    (h : a.KeepsIfFailed p.content) : (p.attempt a).KeepsIfFailed p :=
  h.mapState fun content => ({ p with content } : Property V)

variable {V : Type} [Content V] [Atomic V] (p : Property V) (parameters : Parameters)

theorem keepsIfFailed_readText (value : String) (version : Version) (mode : Mode) :
    (p.readText parameters value version mode).KeepsIfFailed { p with parameters } :=
  keepsIfFailed_attempt (Atomic.readText { p with parameters } value version mode)

/-- A comment is refused before any reader sees it. -/
theorem keepsIfFailed_readXml (root : Xml.Root) (version : Version) (mode : Mode) :
    (p.readXml parameters root version mode).KeepsIfFailed { p with parameters } := by
  cases root with
  | comment text => exact keepsIfFailed_failed
  | element e => exact keepsIfFailed_attempt (Atomic.readXml { p with parameters } ⟨e, version⟩ mode)

theorem keepsIfFailed_readJson (value : TaggedValue) (version : Version) :
    (p.readJson parameters value version).KeepsIfFailed { p with parameters } :=
  keepsIfFailed_attempt (Atomic.readJson { p with parameters } value version)

theorem keepsIfFailed_readHtml (node : Html.PageNode) : (p.readHtml node).KeepsIfFailed p :=
  keepsIfFailed_attempt (Atomic.readHtml p node)

end Property

/-! ## Stores -/

namespace Store

/-- A property that failed without a change is written back as it was. -/
theorem conclude_of_failed {s : Store} {id : PropertyId} {α : Type}
    {a : Attempt Failure AnyProperty α}
    {p : AnyProperty} (h : a.KeepsIfFailed p) (hp : p.content = (s.storedAt id).content)
    {f : Failure} (hf : (s.conclude id a).1 = .error f) : (s.conclude id a).2 = s := by
  obtain ⟨result, state⟩ := a
  cases result with
  | ok value => exact absurd hf nofun
  | error failure =>
    have hstate : state = p := h failure rfl
    rw [conclude, hstate, hp]
    exact s.setContent_self id

/-- **A failed read changes no value.** Where a text, an XML element or a tagged value is not read,
whatever the reason, the property refers to the given container, and nothing else in the store is
changed: name, group and content are the ones from before. Where a node of a page is not read,
nothing is changed at all. -/
theorem store_eq_of_failed_read (s : Store) (id : PropertyId) :
    (∀ parameters value version mode f,
      (s.readText id parameters value version mode).1 = .error f →
        (s.readText id parameters value version mode).2 = s.install id parameters) ∧
    (∀ parameters root version mode f,
      (s.readXml id parameters root version mode).1 = .error f →
        (s.readXml id parameters root version mode).2 = s.install id parameters) ∧
    (∀ parameters value version f,
      (s.readJson id parameters value version).1 = .error f →
        (s.readJson id parameters value version).2 = s.install id parameters) ∧
    ∀ node f, (s.readHtml id node).1 = .error f → (s.readHtml id node).2 = s := by
  refine ⟨fun parameters value version mode f hf => ?_,
    fun parameters root version mode f hf => ?_, fun parameters value version f hf => ?_,
    fun node f hf => ?_⟩
  · exact conclude_of_failed (Property.keepsIfFailed_readText _ _ value version mode) rfl hf
  · exact conclude_of_failed (Property.keepsIfFailed_readXml _ _ root version mode) rfl hf
  · exact conclude_of_failed (Property.keepsIfFailed_readJson _ _ value version) rfl hf
  · exact conclude_of_failed (Property.keepsIfFailed_readHtml _ node) rfl hf

/-- An element with an identity but no sex, read by a gender that holds both; and a text that is
said to be no link, and a card of a page that has a link, read by an agent that holds a link. The
agent is given the container of the gender. -/
theorem store_eq_of_failed_read_late :
    let s := (initial.addProperty { typeName := "GENDER", group := some "g",
                                    content := .gender .gender ⟨some "F", some "x"⟩ }).2
    let s := (s.addProperty { typeName := "AGENT", content := .agent ⟨some "cid:a", none⟩ }).2
    let sexless : Xml.Element := ⟨"gender", none, [.element "identity" (some "y") [] none]⟩
    let card : Html.Element :=
      { tag := "a"
        attributes := [({ localName := "class" }, "vcard"), ({ localName := "href" }, "cid:b")] }
    let xml := s.readXml ⟨0⟩ ⟨1⟩ (.element sexless) .v4_0 .rfc
    let text := s.readText ⟨1⟩ ⟨0⟩ "cid:b" .v3_0 .rfc
    let html := s.readHtml ⟨1⟩ ⟨.element card, none⟩
    (xml.1 = .error (.missing [.named "sex"]) ∧ xml.2 = s.install ⟨0⟩ ⟨1⟩) ∧
      (text.1 = .error (.embedded ⟨none, some (.property ⟨1⟩)⟩) ∧ text.2 = s.install ⟨1⟩ ⟨0⟩) ∧
      html.1 = .error (.embedded ⟨none, some (.property ⟨1⟩)⟩) ∧ html.2 = s := by
  intro s₀ s sexless card xml text html
  have hxml : xml.1 = .error (.missing [.named "sex"]) := rfl
  have htext : text.1 = .error (.embedded ⟨none, some (.property ⟨1⟩)⟩) := rfl
  have hhtml : html.1 = .error (.embedded ⟨none, some (.property ⟨1⟩)⟩) := by
    have hcard : ∀ p, Agent.readHtml p ⟨.element card, none⟩ =
        .failed (.embedded ⟨none, some .reader⟩) p.content :=
      fun _ => if_pos (by decide : card.hasClass "vcard" = true)
    exact congrArg (fun a => a.result.mapError (Failure.resolve ⟨1⟩)) (hcard _)
  exact ⟨⟨hxml, (store_eq_of_failed_read s ⟨0⟩).2.1 _ _ _ _ _ hxml⟩,
    ⟨htext, (store_eq_of_failed_read s ⟨1⟩).1 _ _ _ _ _ htext⟩,
    hhtml, (store_eq_of_failed_read s ⟨1⟩).2.2.2 _ _ hhtml⟩

end Store

end VCardKit
