/-
  The parameters that a property writes stand in a container of their own. It is a copy with lists
  of its own, and the hook of the type of the property edits it where it stands; so nothing that was
  in the store before is changed, whatever the hook does; and what is done later to the container
  reaches no other, nor does what is done to the own container of the property reach it
  (`HandsOut`). Of the standard types, agents alone make something of the copy: they declare whether
  there is a link, and of which data type.
-/
import VCardKit.Proofs.Parameters.Run
import VCardKit.Proofs.Property.Agent

namespace VCardKit

namespace Parameters

/-! ## Rows -/

/-- What a replaced parameter leaves of the rows: those of the other names, and its own one last. -/
theorem entries_replace (c : Parameters) (n : String) (v : Option String) :
    (c.replace n v).entries =
      (c.entries.filter fun e => e.1 != key n) ++ v.toList.map fun v => (key n, [v]) := by
  cases v with
  | none => exact (List.append_nil _).symm
  | some v => exact Entries.put_of_not_mem (not_mem_names_removeAll c n) v

end Parameters

open Parameters (Edit)

namespace Store

/-! ## Containers that are handed out -/

/-- A container is handed out beside an own one: the store is as it was but for containers, and the
containers that were there hold what they held; whatever is done later, to these containers or to
others, each of the two becomes what the steps that name it make of it. -/
structure HandsOut (s : Store) (own : ParametersId) (out : ParametersId × Store) : Prop where
  rest : out.2 = { s with parameters := out.2.parameters }
  containers : ∀ c : ParametersId, c.index < s.parameters.size →
    out.2.parametersAt c = s.parametersAt c
  own_later : ∀ steps : List ContainerStep, (steps.foldl afterStep out.2).parametersAt own =
    steps.foldl (fun c step => step.own own.index c) (s.parametersAt own)
  out_later : ∀ steps : List ContainerStep, (steps.foldl afterStep out.2).parametersAt out.1 =
    steps.foldl (fun c step => step.own out.1.index c) (out.2.parametersAt out.1)
  out_ne : out.1 ≠ own

/-- Whatever a hook makes of the copy that it is given, the copy is handed out. -/
theorem handsOut_writeParametersBy {s : Store} {own : ParametersId}
    (h : own.index < s.parameters.size) (hook : Parameters → List Edit) :
    s.HandsOut own (s.writeParametersBy own hook) := by
  have hsize := size_writeParametersBy own hook s
  exact {
    rest := rfl
    containers := fun c hc => parametersAt_writeParametersBy own hook hc
    own_later := fun steps => by
      rw [parametersAt_foldl_afterStep steps (hsize ▸ Nat.lt_succ_of_lt h),
        parametersAt_writeParametersBy own hook h]
    out_later := fun steps =>
      parametersAt_foldl_afterStep steps (hsize ▸ Nat.lt_succ_self s.parameters.size)
    out_ne := fun heq => Nat.ne_of_gt h (congrArg ParametersId.index heq) }

end Store

/-! ## Written parameters -/

namespace Property

variable {p : AnyProperty} (version : Version) (mode : Mode) (card : Option Card)

/-- Only agents, and the type that shows the hook, make something of the copy. -/
theorem writeParameters_eq_self (hagent : p.kind ≠ .agent) (hadjusting : p.kind ≠ .adjusting) :
    p.writeParameters version mode card = p.parameters := by
  obtain ⟨typeName, group, parameters, content⟩ := p
  cases content with
  | agent a => exact absurd rfl hagent
  | echo e =>
    obtain ⟨variant, value, calls⟩ := e
    cases variant with
    | adjusting => exact absurd rfl hadjusting
    | _ => rfl
  | _ => rfl

/-- An agent declares the data type of its link behind all other parameters, or none. -/
theorem entries_writeParameters_of_agent {a : Agent} (h : p.content = .agent a) :
    (p.writeParameters version mode card).entries =
      (p.parameters.entries.filter fun e => e.1 != "VALUE") ++
        a.url.toList.map fun _ => ("VALUE", [(Agent.linkType version).wireName]) := by
  have hkey : Parameters.key "VALUE" = "VALUE" := by decide +kernel
  rw [writeParameters_of_agent h, Agent.adjust, List.foldl_cons, List.foldl_nil, Edit.ofDataType,
    Edit.apply, Parameters.entries_replace, hkey]
  cases hurl : a.url <;> simp [withContent, hurl]

end Property

namespace Store

/-- **The written parameters are an isolated copy.** Whatever the hook of a type makes of the copy
that it is given, the copy is a container that lives apart from the own one, which stays as it was,
and holds what the edits of the hook make of what the own one holds. A property hands out its
parameters so, by the hook of its type. What is handed out is what the own container holds, unless
the property is an agent: then `VALUE` goes, and stands last with the name for a link in the version
if there is a link. -/
theorem handsOut_writeParameters (s : Store) (id : PropertyId)
    (h : (s.storedAt id).parameters.index < s.parameters.size) (version : Version) (mode : Mode)
    (card : Option CardId) :
    let own := (s.storedAt id).parameters
    let out := s.writeParameters id version mode card
    (∀ hook : Parameters → List Edit, let byHook := s.writeParametersBy own hook
      s.HandsOut own byHook ∧ byHook.2.parametersAt byHook.1 =
        (hook (s.parametersAt own)).foldl Edit.apply (s.parametersAt own)) ∧
    s.HandsOut own out ∧ out = s.writeParametersBy own (s.parametersHook id version mode card) ∧
    ((s.propertyAt id).kind ≠ .agent → (s.propertyAt id).kind ≠ .adjusting →
      out.2.parametersAt out.1 = s.parametersAt own) ∧
    ∀ a, (s.propertyAt id).content = .agent a →
      (out.2.parametersAt out.1).entries =
        ((s.parametersAt own).entries.filter fun e => e.1 != "VALUE") ++
          if a.url = none then [] else [("VALUE", [if version = .v2_1 then "url" else "uri"])] := by
  intro own out
  have hout : out.2.parametersAt out.1 =
      (s.propertyAt id).writeParameters version mode (card.map s.cardAt) :=
    parametersAt_writeParameters s id version mode card
  refine ⟨fun hook => ⟨handsOut_writeParametersBy h hook, ?_⟩, handsOut_writeParametersBy h _, rfl,
    fun hagent hadjusting => ?_, fun a ha => ?_⟩
  · exact parametersAt_writeParametersBy_self own hook s
  · rw [hout]
    exact Property.writeParameters_eq_self version mode _ hagent hadjusting
  · rw [hout, Property.entries_writeParameters_of_agent version mode _ ha]
    refine congrArg _ ?_
    cases a.url with
    | none => rfl
    | some url => cases version <;> rfl

/-- A property that adds, replaces and removes parameters of the copy, and an agent with a link
whose own parameters declare a text. -/
theorem handsOut_writeParameters_adjusted :
    let s := (initial.addProperty
      { typeName := "X-REWRITE", content := .echo { variant := .adjusting }
        parameters := .ofList [("LANGUAGE", "en"), ("PREF", "1")] }).2
    let s := (s.addProperty
      { typeName := "AGENT", content := .agent ⟨some "cid:a", none⟩
        parameters := .ofList [("VALUE", "text"), ("TYPE", "home")] }).2
    let out := s.writeParameters ⟨0⟩ .v4_0 .rfc none
    let link := s.writeParameters ⟨1⟩ .v2_1 .rfc none
    ((s.storedAt ⟨0⟩).parameters.index < s.parameters.size ∧ s.HandsOut ⟨0⟩ out ∧
      (out.2.parametersAt ⟨0⟩).items = [("LANGUAGE", "en"), ("PREF", "1")] ∧
      (out.2.parametersAt out.1).items =
        [("LANGUAGE", "fr"), ("TYPE", "work"), ("X-CONTEXT", "4.0/rfc/-")]) ∧
      (s.storedAt ⟨1⟩).parameters.index < s.parameters.size ∧ s.HandsOut ⟨1⟩ link ∧
      (link.2.parametersAt link.1).entries = [("TYPE", ["home"]), ("VALUE", ["url"])] := by
  intro s₀ s out link
  have h₀ : (s.storedAt ⟨0⟩).parameters.index < s.parameters.size := by decide
  have h₁ : (s.storedAt ⟨1⟩).parameters.index < s.parameters.size := by decide
  obtain ⟨-, hout, -, -, -⟩ := handsOut_writeParameters s ⟨0⟩ h₀ .v4_0 .rfc none
  obtain ⟨-, hlink, -, -, hagent⟩ := handsOut_writeParameters s ⟨1⟩ h₁ .v2_1 .rfc none
  refine ⟨⟨h₀, hout, ?_, by decide +kernel⟩, h₁, hlink, ?_⟩
  · rw [hout.containers ⟨0⟩ (by decide)]
    decide +kernel
  · rw [hagent ⟨some "cid:a", none⟩ rfl]
    decide +kernel

end Store

end VCardKit
