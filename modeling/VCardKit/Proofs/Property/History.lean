/-
  Readings and what went before. The readers of texts, categories, genders and raw values do not
  look at the property that reads (`Content.Forgetful`): whether they succeed, what they warn of and
  what they leave behind comes from the call alone. Together with the fact that a reading that fails
  changes no value, this gives what a whole run of readings leaves: what the latest that succeeded
  would leave in any property of the type (`content_afterReads`). Agents are not among these types.
-/
import VCardKit.Proofs.Property.AnyContent
import VCardKit.Proofs.Property.FailedRead
import VCardKit.Proofs.Registry.Standard

namespace VCardKit

/-! ## Calls -/

/-- A call of a reader, with all that it is given. -/
inductive ReadCall where
  | text (parameters : Parameters) (value : String) (version : Version) (mode : Mode)
  | xml (parameters : Parameters) (root : Xml.Root) (version : Version) (mode : Mode)
  | json (parameters : Parameters) (value : TaggedValue) (version : Version)
  | html (node : Html.PageNode)

namespace Property

variable {V : Type} [Content V]

/-- The reading that a call asks for. -/
def read (p : Property V) : ReadCall → Attempt Failure (Property V) (List String)
  | .text parameters value version mode => p.readText parameters value version mode
  | .xml parameters root version mode => p.readXml parameters root version mode
  | .json parameters value version => p.readJson parameters value version
  | .html node => p.readHtml node

/-- What comes of a call, and the content that it leaves behind. -/
def reading (p : Property V) (call : ReadCall) : Attempt Failure V (List String) :=
  (p.read call).mapState content

def canRead (p : Property V) (call : ReadCall) : Bool := (p.read call).result.isOk

/-- The property after calls, the latest of which stands first, whatever came of them. -/
def afterReads (p : Property V) : List ReadCall → Property V
  | [] => p
  | call :: earlier => ((p.afterReads earlier).read call).state

theorem canRead_of_failed {p : Property V} {call : ReadCall} {f : Failure}
    (h : (p.reading call).result = .error f) : p.canRead call = false :=
  congrArg Except.isOk h

theorem canRead_of_done {p : Property V} {call : ReadCall} {warnings : List String} {c : V}
    (h : p.reading call = .done warnings c) : p.canRead call = true :=
  congrArg (fun a => a.result.isOk) h

/-- A reading that fails changes no value, although it may change the parameters. -/
theorem keepsIfFailed_reading [Content.Atomic V] (p : Property V) (call : ReadCall) :
    (p.reading call).KeepsIfFailed p.content := by
  cases call with
  | text parameters value version mode =>
    exact (p.keepsIfFailed_readText parameters value version mode).mapState content
  | xml parameters root version mode =>
    exact (p.keepsIfFailed_readXml parameters root version mode).mapState content
  | json parameters value version =>
    exact (p.keepsIfFailed_readJson parameters value version).mapState content
  | html node => exact (p.keepsIfFailed_readHtml node).mapState content

/-! ## Calls of properties of any kind -/

section

variable (wrap : V → AnyContent) [AnyContent.Wrapper wrap] (p : Property V)

theorem read_wrapped (call : ReadCall) :
    (p.wrapped wrap).read call = (p.read call).mapState (wrapped wrap) := by
  cases call with
  | text parameters value version mode =>
    exact readText_wrapped wrap p parameters value version mode
  | xml parameters root version mode => exact readXml_wrapped wrap p parameters root version mode
  | json parameters value version => exact readJson_wrapped wrap p parameters value version
  | html node => exact readHtml_wrapped wrap p node

theorem reading_wrapped (call : ReadCall) :
    (p.wrapped wrap).reading call = (p.reading call).mapState wrap := by
  rw [reading, read_wrapped]
  rfl

theorem canRead_wrapped (call : ReadCall) : (p.wrapped wrap).canRead call = p.canRead call := by
  rw [canRead, read_wrapped]
  rfl

theorem afterReads_wrapped (calls : List ReadCall) :
    (p.wrapped wrap).afterReads calls = (p.afterReads calls).wrapped wrap := by
  induction calls with
  | nil => rfl
  | cons call earlier ih =>
    rw [afterReads, ih, read_wrapped]
    rfl

end

end Property

/-! ## Readers that forget -/

namespace Attempt

variable {σ τ α : Type}

/-- Two attempts come to the same end: they fail in the same way, or they succeed with the same
answer and leave the same behind. -/
def SameEnd (a b : Attempt Failure σ α) : Prop :=
  (∃ f, a.result = .error f ∧ b.result = .error f) ∨
    ∃ value state, a = .done value state ∧ b = .done value state

theorem SameEnd.mapState {a b : Attempt Failure σ α} (h : a.SameEnd b) (f : σ → τ) :
    (a.mapState f).SameEnd (b.mapState f) := by
  rcases h with h | ⟨value, state, rfl, rfl⟩
  · exact .inl h
  · exact .inr ⟨value, f state, rfl, rfl⟩

theorem sameEnd_done {value : α} {state : σ} :
    (done value state : Attempt Failure σ α).SameEnd (done value state) :=
  .inr ⟨value, state, rfl, rfl⟩

theorem sameEnd_failed {f : Failure} {s t : σ} :
    (failed f s : Attempt Failure σ α).SameEnd (failed f t) :=
  .inl ⟨f, rfl, rfl⟩

end Attempt

open Attempt

/-- The readers of a content type do not look at the property that reads. -/
class Content.Forgetful (V : Type) [Content V] : Prop where
  readText (p q : Property V) (value : String) (version : Version) (mode : Mode) :
    (Content.readText p value version mode).SameEnd (Content.readText q value version mode)
  readXml (p q : Property V) (element : Xml.PropertyElement) (mode : Mode) :
    (Content.readXml p element mode).SameEnd (Content.readXml q element mode)
  readJson (p q : Property V) (value : TaggedValue) (version : Version) :
    (Content.readJson p value version).SameEnd (Content.readJson q value version)
  readHtml (p q : Property V) (node : Html.PageNode) :
    (Content.readHtml p node).SameEnd (Content.readHtml q node)

open Content (Forgetful Atomic)

section

variable (e : Xml.PropertyElement) (mode : Mode)

theorem TextValue.sameEnd_readXml (p q : Property TextValue) :
    (readXml p e mode).SameEnd (readXml q e mode) := by
  rw [readXml, readXml]
  split
  · exact sameEnd_done
  · exact sameEnd_failed

theorem Categories.sameEnd_readXml (p q : Property Categories) :
    (readXml p e mode).SameEnd (readXml q e mode) := by
  rw [readXml, readXml]
  split
  · exact sameEnd_failed
  · exact sameEnd_done

/-- The identity is set also where the element has none. -/
theorem Gender.sameEnd_readXml (p q : Property Gender) :
    (readXml p e mode).SameEnd (readXml q e mode) := by
  rw [readXml, readXml]
  split
  · exact sameEnd_failed
  · exact sameEnd_done

theorem RawValue.sameEnd_readXml (p q : Property RawValue) :
    (readXml p e mode).SameEnd (readXml q e mode) := by
  rw [readXml, readXml]
  split
  · exact sameEnd_failed
  · exact sameEnd_done

end

instance : Forgetful TextValue where
  readText _ _ _ _ _ := sameEnd_done
  readXml p q e mode := TextValue.sameEnd_readXml e mode p q
  readJson _ _ _ _ := sameEnd_done
  readHtml _ _ _ := sameEnd_done

instance : Forgetful Categories where
  readText _ _ _ _ _ := sameEnd_done
  readXml p q e mode := Categories.sameEnd_readXml e mode p q
  readJson _ _ _ _ := sameEnd_done
  readHtml _ _ _ := sameEnd_done

instance : Forgetful Gender where
  readText _ _ _ _ _ := sameEnd_done
  readXml p q e mode := Gender.sameEnd_readXml e mode p q
  readJson _ _ _ _ := sameEnd_done
  readHtml _ _ _ := sameEnd_done

instance : Forgetful RawValue where
  readText _ _ _ _ _ := sameEnd_done
  readXml p q e mode := RawValue.sameEnd_readXml e mode p q
  readJson _ _ _ _ := sameEnd_done
  readHtml _ _ _ := sameEnd_done

namespace Property

variable {V : Type} [Content V] [Forgetful V] (p q : Property V)

theorem sameEnd_reading (call : ReadCall) : (p.reading call).SameEnd (q.reading call) := by
  cases call with
  | text parameters value version mode =>
    exact Forgetful.readText { p with parameters } { q with parameters } value version mode
  | xml parameters root version mode =>
    cases root with
    | comment text => exact sameEnd_failed
    | element e =>
      exact Forgetful.readXml { p with parameters } { q with parameters } ⟨e, version⟩ mode
  | json parameters value version =>
    exact Forgetful.readJson { p with parameters } { q with parameters } value version
  | html node => exact Forgetful.readHtml p q node

/-- After a run, the property holds what the latest call that succeeded leaves in any property of
the type, and what it held before if none succeeded. -/
theorem content_afterReads [Atomic V] (calls : List ReadCall) :
    (p.afterReads calls).content =
      match calls.find? q.canRead with
      | none => p.content
      | some call => (q.reading call).state := by
  induction calls with
  | nil => rfl
  | cons call earlier ih =>
    rcases sameEnd_reading (p.afterReads earlier) q call with ⟨f, hp, hq⟩ | ⟨warnings, c, hp, hq⟩
    · rw [List.find?_cons_of_neg (Bool.eq_false_iff.1 (canRead_of_failed hq)), ← ih]
      exact keepsIfFailed_reading _ call f hp
    · rw [List.find?_cons_of_pos (canRead_of_done hq)]
      exact congrArg state (hp.trans hq.symm)

end Property

/-! ## Properties of the same kind -/

namespace AnyProperty

open AnyContent (Wrapper)

/-- Two properties of one type, the readers of which forget. -/
inductive BothForget : AnyProperty → AnyProperty → Prop where
  | intro {V : Type} [Content V] [Forgetful V] [Atomic V] (wrap : V → AnyContent) [Wrapper wrap]
    (p q : Property V) : BothForget (p.wrapped wrap) (q.wrapped wrap)

theorem bothForget_of_content {V : Type} [Content V] [Forgetful V] [Atomic V]
    (wrap : V → AnyContent) [Wrapper wrap] {p q : AnyProperty} {c d : V} (hp : p.content = wrap c)
    (hq : q.content = wrap d) : BothForget p q := by
  rw [Property.eq_wrapped hp, Property.eq_wrapped hq]
  exact .intro wrap _ _

/-- The kinds of properties that hold nothing but what was read last. -/
def forgetfulKinds : List Kind := [.formattedName, .note, .title, .categories, .gender, .raw]

theorem bothForget_of_kind {p q : AnyProperty} (h : p.kind ∈ forgetfulKinds)
    (hkind : p.kind = q.kind) : BothForget p q := by
  have hmem : ∀ k ∈ forgetfulKinds, k ∈ Kind.raw :: Registry.standardKinds := by decide
  have hp : p.content.IsStandard := AnyContent.isStandard_of_kind_mem (hmem _ h)
  have hq : q.content.IsStandard := by
    refine AnyContent.isStandard_of_kind_mem (hmem q.kind ?_)
    rwa [← hkind]
  obtain ⟨typeName, group, parameters, content⟩ := p
  obtain ⟨typeName', group', parameters', content'⟩ := q
  cases hp with
  | text k c =>
    cases hq with
    | text k' d =>
      have hk : k = k' := by cases k <;> cases k' <;> first | rfl | cases hkind
      subst hk
      exact bothForget_of_content (AnyContent.text k) rfl rfl
    | _ => cases k <;> cases hkind
  | categories c =>
    cases hq with
    | categories d => exact bothForget_of_content AnyContent.categories rfl rfl
    | text k _ => cases k <;> cases hkind
    | _ => cases hkind
  | gender c =>
    cases hq with
    | gender d => exact bothForget_of_content (AnyContent.gender .gender) rfl rfl
    | text k _ => cases k <;> cases hkind
    | _ => cases hkind
  | raw c =>
    cases hq with
    | raw d => exact bothForget_of_content AnyContent.raw rfl rfl
    | text k _ => cases k <;> cases hkind
    | _ => cases hkind
  | agent c =>
    have hagent : Kind.agent ∉ forgetfulKinds := by decide
    exact absurd h hagent

/-- **Reading is independent of history.** Two properties of one kind that forgets, whatever they
hold, come to the same end by the same call: both fail in the same way, or both give the same
warnings and hold the same value. So after the same calls they hold the same value as soon as one
of the calls succeeded. -/
theorem sameEnd_of_kind {p q : AnyProperty} (h : p.kind ∈ forgetfulKinds)
    (hkind : p.kind = q.kind) :
    (∀ call, (p.reading call).SameEnd (q.reading call)) ∧
    ∀ calls, (∃ call ∈ calls, p.canRead call = true) →
      (p.afterReads calls).content = (q.afterReads calls).content := by
  obtain ⟨wrap, p, q⟩ := bothForget_of_kind h hkind
  refine ⟨fun call => ?_, fun calls ⟨call, hcall, hread⟩ => ?_⟩
  · rw [Property.reading_wrapped, Property.reading_wrapped]
    exact (Property.sameEnd_reading p q call).mapState wrap
  · rw [Property.canRead_wrapped] at hread
    obtain ⟨latest, hlatest⟩ := Option.isSome_iff_exists.1
      (List.find?_isSome.2 ⟨call, hcall, hread⟩)
    have hp : (p.afterReads calls).content = (p.reading latest).state := by
      rw [Property.content_afterReads p p, hlatest]
    have hq : (q.afterReads calls).content = (p.reading latest).state := by
      rw [Property.content_afterReads q p, hlatest]
    rw [Property.afterReads_wrapped, Property.afterReads_wrapped]
    exact congrArg wrap (hp.trans hq.symm)

/-- A gender that held an identity, and a new one with a name of its own, read an element without an
identity. -/
theorem sameEnd_of_kind_gender :
    let p : AnyProperty := { typeName := "GENDER", parameters := Parameters.empty.put "PREF" "1",
                             content := .gender .gender ⟨some "F", some "x"⟩ }
    let q : AnyProperty := { typeName := "X", content := .gender .gender {} }
    let call : ReadCall :=
      .xml .empty (.element ⟨"gender", none, [.element "sex" (some "m") [] none]⟩) .v4_0 .rfc
    p.kind ∈ forgetfulKinds ∧ p.kind = q.kind ∧ p.canRead call = true ∧
      (p.reading call).SameEnd (q.reading call) ∧
      (p.afterReads [call]).content = (q.afterReads [call]).content := by
  intro p q call
  have hmem : p.kind ∈ forgetfulKinds := by decide
  have hkind : p.kind = q.kind := rfl
  have hread : p.canRead call = true := rfl
  obtain ⟨hend, hrun⟩ := sameEnd_of_kind hmem hkind
  exact ⟨hmem, hkind, hread, hend call, hrun [call] ⟨call, List.mem_singleton_self _, hread⟩⟩

end AnyProperty

end VCardKit
