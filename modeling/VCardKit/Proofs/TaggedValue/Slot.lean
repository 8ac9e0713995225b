/-
  Property values through their JSON slots. Slots do not say which shape they were written for;
  reading guesses it. The guess is right for every shape but a flat list of fewer than two values,
  which looks like a single one (`ofSlots_toSlots_eq_self_iff`), and none of the views tells the two
  apart. Whatever the slots are, reading them gives a shape that is guessed right from then on
  (`isNormal_ofSlots`).
-/
import VCardKit.TaggedValue.Slot

namespace VCardKit

/-! ## Slots of one component -/

namespace Slot

theorem map_scalar_text (values : List String) : (values.map text).map scalar = values := by
  rw [List.map_map]
  exact List.map_id values

/-- Only a component of one value is written without a list around it. -/
theorem component_ofComponent (values : List String) : (ofComponent values).component = values := by
  fun_cases ofComponent values with
  | case1 value => rfl
  | case2 values _ => exact map_scalar_text values

end Slot

namespace Shape

/-! ## Shapes that their slots tell -/

/-- A shape that can be told from its slots. A flat list of fewer than two values cannot: its slots
are those of a single value. -/
def IsNormal : Shape → Prop
  | multi values => 2 ≤ values.length
  | _ => True

instance : DecidablePred IsNormal
  | multi values => inferInstanceAs (Decidable (2 ≤ values.length))
  | single _ => .isTrue trivial
  | structured _ => .isTrue trivial

theorem eq_multi_of_not_isNormal {s : Shape} (h : ¬ s.IsNormal) :
    s = multi [] ∨ ∃ value, s = multi [value] := by
  cases s with
  | single _ => exact absurd trivial h
  | structured _ => exact absurd trivial h
  | multi values =>
    match values with
    | [] => exact .inl rfl
    | [value] => exact .inr ⟨value, rfl⟩
    | _ :: _ :: rest => exact absurd (Nat.le_add_left 2 rest.length) h

theorem ofSlots_toSlots_of_isNormal {s : Shape} (h : s.IsNormal) : ofSlots s.toSlots = s := by
  cases s with
  | single value => cases value <;> rfl
  | multi values =>
    match values, h with
    | first :: second :: rest, _ =>
      exact congrArg multi (Slot.map_scalar_text (first :: second :: rest))
  | structured components =>
    show structured ((components.map Slot.ofComponent).map Slot.component) = structured components
    rw [List.map_map]
    congr 1
    exact List.map_id'' Slot.component_ofComponent components

theorem isNormal_ofSlots (slots : List Slot) : (ofSlots slots).IsNormal := by
  fun_cases ofSlots slots with
  | case1 => trivial
  | case2 items rest => trivial
  | case3 => trivial
  | case4 slot _ _ => trivial
  | case5 slots hnil _ _ hone =>
    match slots, hnil, hone with
    | [slot], _, hone => exact absurd rfl (hone slot)
    | _ :: _ :: rest, _, _ =>
      show 2 ≤ (List.map Slot.scalar (_ :: _ :: rest)).length
      simp

/-- The guess is right for normal shapes, and a shape that is guessed is normal. -/
theorem ofSlots_toSlots_eq_self_iff {s : Shape} : ofSlots s.toSlots = s ↔ s.IsNormal :=
  ⟨fun h => h ▸ isNormal_ofSlots s.toSlots, ofSlots_toSlots_of_isNormal⟩

/-! ## Views -/

section

variable {α : Type} {view : Shape → α}

/-- A view that does not tell a flat list of at most one value from a single one is kept. -/
theorem view_ofSlots_toSlots (hnil : view (single none) = view (multi []))
    (hone : ∀ value, view (single (some value)) = view (multi [value])) (s : Shape) :
    view (ofSlots s.toSlots) = view s := by
  by_cases h : s.IsNormal
  · rw [ofSlots_toSlots_of_isNormal h]
  · rcases eq_multi_of_not_isNormal h with rfl | ⟨value, rfl⟩
    · exact hnil
    · exact hone value

end

theorem asSingle_ofSlots_toSlots (s : Shape) : (ofSlots s.toSlots).asSingle = s.asSingle :=
  view_ofSlots_toSlots rfl (fun _ => rfl) s

theorem asMulti_ofSlots_toSlots (s : Shape) : (ofSlots s.toSlots).asMulti = s.asMulti :=
  view_ofSlots_toSlots rfl (fun _ => rfl) s

theorem asStructured_ofSlots_toSlots (s : Shape) :
    (ofSlots s.toSlots).asStructured = s.asStructured :=
  view_ofSlots_toSlots rfl (fun _ => rfl) s

end Shape

namespace TaggedValue

/-- **Slots keep all but the shape of a short list.** A value comes back from its slots exactly if
its shape is normal. A flat list of fewer than two values comes back as a single one, and no view
shows the difference. What was read from slots of any kind comes back from its own. -/
theorem ofSlots_toSlots (dataType : Option DataType) :
    (∀ v : TaggedValue, ofSlots v.dataType v.toSlots = v ↔ v.shape.IsNormal) ∧
    ofSlots dataType (toSlots ⟨dataType, .multi []⟩) = ⟨dataType, .single none⟩ ∧
    (∀ value, ofSlots dataType (toSlots ⟨dataType, .multi [value]⟩) =
      ⟨dataType, .single (some value)⟩) ∧
    (∀ v : TaggedValue, (ofSlots v.dataType v.toSlots).asSingle = v.asSingle ∧
      (ofSlots v.dataType v.toSlots).asMulti = v.asMulti ∧
      (ofSlots v.dataType v.toSlots).asStructured = v.asStructured) ∧
    (∀ slots, ofSlots dataType (ofSlots dataType slots).toSlots = ofSlots dataType slots) ∧
    ∀ v : TaggedValue, v.asMulti = v.asStructured.flatten := by
  refine ⟨fun v => ?_, rfl, fun _ => rfl, fun v => ?_, fun slots => ?_, fun v => ?_⟩
  · rw [← Shape.ofSlots_toSlots_eq_self_iff]
    exact ⟨congrArg shape, congrArg (TaggedValue.mk v.dataType)⟩
  · exact ⟨v.shape.asSingle_ofSlots_toSlots, v.shape.asMulti_ofSlots_toSlots,
      v.shape.asStructured_ofSlots_toSlots⟩
  · exact congrArg (TaggedValue.mk dataType)
      (Shape.ofSlots_toSlots_of_isNormal (Shape.isNormal_ofSlots slots))
  · exact v.shape.asMulti_eq_flatten

/-- Components of no, one and several values, beside a slot that is no text. -/
example : ofSlots none [.list [.list [], .text "a", .list [.null, .text "b"]], .null] =
    ⟨none, .structured [[], ["a"], ["", "b"]]⟩ := rfl

end TaggedValue

end VCardKit
