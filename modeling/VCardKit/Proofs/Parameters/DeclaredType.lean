/-
  The data type that parameters declare. A name is looked up in lower case and without the blanks
  around it, and each data type answers to one name, the content identifier to two
  (`ofName?_eq_some_iff`). What is declared is read back (`dataType?_ofDataType`).
-/
import VCardKit.Parameters.Change
import VCardKit.Proofs.Parameters.Multimap

namespace VCardKit

namespace DataType

/-! ## Names -/

theorem wireName_ne_cid (t : DataType) : t.wireName ≠ "cid" := by
  cases t <;> decide

theorem find?_wireName (t : DataType) : (all.find? fun s => s.wireName == t.wireName) = some t := by
  cases t <;> rfl

/-- The names under which a data type is found. -/
theorem ofName?_eq_some_iff {name : String} {t : DataType} :
    ofName? name = some t ↔ Text.lower (Text.strip name) = t.wireName ∨
      t = .contentId ∧ Text.lower (Text.strip name) = "cid" := by
  rw [ofName?]
  generalize Text.lower (Text.strip name) = wanted
  by_cases hcid : wanted = "cid"
  · have hne : wanted ≠ t.wireName := fun h => wireName_ne_cid t (h.symm.trans hcid)
    simp only [hcid, if_true, Option.some.injEq, and_true]
    exact ⟨fun h => Or.inr h.symm, fun h => h.elim (fun h => absurd (hcid.trans h) hne) Eq.symm⟩
  · rw [if_neg hcid]
    constructor
    · intro h
      have hfound := List.find?_some h
      exact Or.inl (beq_iff_eq.1 hfound).symm
    · rintro (rfl | ⟨-, h⟩)
      · exact find?_wireName t
      · exact absurd h hcid

/-- No blank and no capital stands in the name of a data type. -/
theorem ofName?_wireName (t : DataType) : ofName? t.wireName = some t := by
  cases t <;> decide +kernel

end DataType

namespace Parameters

/-! ## Declarations -/

theorem dataType?_eq_some_iff {c : Parameters} {t : DataType} :
    c.dataType? = some t ↔ ∃ v, c.first? "VALUE" = some v ∧ DataType.ofName? v = some t :=
  Option.bind_eq_some_iff

/-- What is declared is read back, whatever was declared before. -/
theorem dataType?_ofDataType (c : Parameters) (t : Option DataType) :
    ((Edit.ofDataType t).apply c).dataType? = t := by
  rw [dataType?, first?, Edit.ofDataType, Edit.apply, get_replace_self]
  cases t with
  | none => rfl
  | some t =>
    rw [Option.map_some, Option.toList_some, List.head?_cons, Option.bind_some]
    exact DataType.ofName?_wireName t

end Parameters

end VCardKit
