/-
  The registry of the standard properties. A name leads to the standard kind that bears it in upper
  case (`get?_standard_eq_some_iff`), an XML name to the one that bears it in lower case, within the
  vocabulary of cards (`find?_standard_eq_some_iff`). Names that belong to no kind lead to a
  property that keeps its value as it stands. Either way the new property bears the name that was
  asked for, in upper case, and has one of five contents (`AnyContent.IsStandard`).
-/
import VCardKit.Proofs.Registry.Lookup

namespace VCardKit.Registry

/-! ## Registrations -/

/-- Standard kinds are registered under the names that they fix. -/
theorem entries_standard :
    standard.entries = standardKinds.map fun k =>
      { name := k.typeName?.getD "", kind := k
        qualifiedName := (xCardNamespace, Text.lower (k.typeName?.getD "")) } := by
  decide +kernel

/-- The names of the standard kinds differ, also in lower case. -/
theorem eq_of_lower_typeName :
    ∀ j ∈ standardKinds, ∀ k ∈ standardKinds,
      Text.lower (j.typeName?.getD "") = Text.lower (k.typeName?.getD "") → j = k := by
  decide +kernel

/-! ## Look-up -/

theorem get?_standard (name : String) :
    standard.get? name = standardKinds.find? fun k => k.typeName?.getD "" = Text.upper name := by
  rw [get?, entry?, entries_standard, List.find?_map, Option.map_map]
  exact congrFun Option.map_id _

theorem find?_standard (ns : Option String) (localName : String) :
    standard.find? ns localName = standardKinds.find? fun k =>
      (xCardNamespace, Text.lower (k.typeName?.getD "")) = (effectiveNamespace ns, localName) := by
  rw [find?, entries_standard, List.find?_map, Option.map_map]
  exact congrFun Option.map_id _

theorem get?_standard_eq_some_iff {name : String} {k : Kind} :
    standard.get? name = some k ↔ k ∈ standardKinds ∧ k.typeName?.getD "" = Text.upper name := by
  rw [get?_standard, find?_eq_some_iff_of_unique, decide_eq_true_iff]
  intro i hi j hj h h'
  refine eq_of_lower_typeName i hi j hj ?_
  rw [of_decide_eq_true h, of_decide_eq_true h']

theorem find?_standard_eq_some_iff {ns : Option String} {localName : String} {k : Kind} :
    standard.find? ns localName = some k ↔ k ∈ standardKinds ∧
      effectiveNamespace ns = xCardNamespace ∧ Text.lower (k.typeName?.getD "") = localName := by
  rw [find?_standard, find?_eq_some_iff_of_unique, decide_eq_true_iff, Prod.mk.injEq,
    eq_comm (a := xCardNamespace)]
  intro i hi j hj h h'
  refine eq_of_lower_typeName i hi j hj ?_
  exact (Prod.ext_iff.1 (of_decide_eq_true h)).2.trans
    (Prod.ext_iff.1 (of_decide_eq_true h')).2.symm

/-! ## New properties -/

/-- A new property of a standard kind is of that kind and bears its name. -/
theorem ofKind?_standard {k : Kind} (h : k ∈ standardKinds) :
    ∃ p, AnyProperty.ofKind? k = some p ∧ p.kind = k ∧ p.typeName = k.typeName?.getD "" := by
  simp only [standardKinds, List.mem_cons, List.not_mem_nil, or_false] at h
  rcases h with rfl | rfl | rfl | rfl | rfl | rfl <;> exact ⟨_, rfl, rfl, rfl⟩

theorem upper_lower_typeName :
    ∀ k ∈ standardKinds, Text.upper (Text.lower (k.typeName?.getD "")) = k.typeName?.getD "" := by
  decide +kernel

section

variable {kind : Option Kind} (h : ∀ k, kind = some k → k ∈ standardKinds) (name : String)

include h

theorem kind_newProperty : (newProperty kind name).kind = kind.getD .raw := by
  cases kind with
  | none => rfl
  | some k =>
    obtain ⟨p, hp, hkind, -⟩ := ofKind?_standard (h k rfl)
    rw [newProperty, Option.bind_some, hp, Option.getD_some, hkind, Option.getD_some]

theorem typeName_newProperty :
    (newProperty kind name).typeName =
      (kind.map fun k => k.typeName?.getD "").getD (Text.upper name) := by
  cases kind with
  | none => rfl
  | some k =>
    obtain ⟨p, hp, -, hname⟩ := ofKind?_standard (h k rfl)
    rw [newProperty, Option.bind_some, hp, Option.getD_some, hname, Option.map_some,
      Option.getD_some]

/-- A new property is of a given standard kind only if that kind was found. -/
theorem kind_newProperty_eq_iff {k : Kind} (hk : k ∈ standardKinds) :
    (newProperty kind name).kind = k ↔ kind = some k := by
  rw [kind_newProperty h]
  cases kind with
  | none =>
    have hraw : Kind.raw ∉ standardKinds := by decide
    simp only [Option.getD_none, reduceCtorEq, iff_false]
    rintro rfl
    exact hraw hk
  | some j => rw [Option.getD_some, Option.some.injEq]

/-- A new property is of a standard kind, or of the one of names that belong to no kind. -/
theorem kind_newProperty_mem : (newProperty kind name).kind ∈ Kind.raw :: standardKinds := by
  rw [kind_newProperty h]
  cases kind with
  | none => exact List.mem_cons_self
  | some k => exact List.mem_cons_of_mem _ (h k rfl)

end

variable {name localName : String} {ns : Option String} {k : Kind}

theorem mem_standardKinds_of_get? (k : Kind) (h : standard.get? name = some k) :
    k ∈ standardKinds := (get?_standard_eq_some_iff.1 h).1

theorem mem_standardKinds_of_find? (k : Kind) (h : standard.find? ns localName = some k) :
    k ∈ standardKinds := (find?_standard_eq_some_iff.1 h).1

theorem kind_create_eq_iff (hk : k ∈ standardKinds) :
    (standard.create name).kind = k ↔ k.typeName?.getD "" = Text.upper name := by
  rw [create, kind_newProperty_eq_iff mem_standardKinds_of_get? name hk, get?_standard_eq_some_iff,
    and_iff_right hk]

theorem kind_createForXml_eq_iff (hk : k ∈ standardKinds) :
    (standard.createForXml ns localName).kind = k ↔
      effectiveNamespace ns = xCardNamespace ∧ Text.lower (k.typeName?.getD "") = localName := by
  rw [createForXml, kind_newProperty_eq_iff mem_standardKinds_of_find? localName hk,
    find?_standard_eq_some_iff, and_iff_right hk]

theorem kind_create_mem (name : String) :
    (standard.create name).kind ∈ Kind.raw :: standardKinds :=
  kind_newProperty_mem mem_standardKinds_of_get? name

theorem kind_createForXml_mem (ns : Option String) (localName : String) :
    (standard.createForXml ns localName).kind ∈ Kind.raw :: standardKinds :=
  kind_newProperty_mem mem_standardKinds_of_find? localName

/-- A new property for a name bears the name in upper case. -/
theorem typeName_create (name : String) :
    (standard.create name).typeName = Text.upper name := by
  rw [create, typeName_newProperty mem_standardKinds_of_get?]
  cases h : standard.get? name with
  | none => rfl
  | some k => exact (get?_standard_eq_some_iff.1 h).2

/-- A new property for an XML name bears the local name in upper case. -/
theorem typeName_createForXml (ns : Option String) (localName : String) :
    (standard.createForXml ns localName).typeName = Text.upper localName := by
  rw [createForXml, typeName_newProperty mem_standardKinds_of_find?]
  cases h : standard.find? ns localName with
  | none => rfl
  | some k =>
    obtain ⟨hk, -, rfl⟩ := find?_standard_eq_some_iff.1 h
    exact (upper_lower_typeName k hk).symm

end VCardKit.Registry

/-! ## Contents -/

namespace VCardKit.AnyContent

/-- The contents of the standard kinds and of names that belong to no kind. -/
inductive IsStandard : AnyContent → Prop where
  | text (kind : TextKind) (c : TextValue) : IsStandard (.text kind c)
  | categories (c : Categories) : IsStandard (.categories c)
  | gender (c : Gender) : IsStandard (.gender .gender c)
  | agent (c : Agent) : IsStandard (.agent c)
  | raw (c : RawValue) : IsStandard (.raw c)

theorem isStandard_of_kind_mem {content : AnyContent}
    (h : content.kind ∈ Kind.raw :: Registry.standardKinds) : content.IsStandard := by
  cases content with
  | text kind c => exact .text kind c
  | categories c => exact .categories c
  | gender kind c =>
    cases kind with
    | gender => exact .gender c
    | otherGender => simp [kind, Registry.standardKinds] at h
  | agent c => exact .agent c
  | raw c => exact .raw c
  | echo c =>
    obtain ⟨variant, value, calls⟩ := c
    cases variant <;> simp [kind, Registry.standardKinds] at h
  | failing c =>
    simp only [kind] at h
    split at h <;> simp [Registry.standardKinds] at h

end VCardKit.AnyContent
