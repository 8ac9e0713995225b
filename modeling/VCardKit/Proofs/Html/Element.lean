/-
  Values of HTML elements. What an element is called, which classes it carries and whether it has a
  title hangs on its tag and its attributes alone. The value is found in three places: the title,
  the values of the parts (`Forest.partValues`), and the visible text; two elements that agree in
  these have the same value (`Element.value_congr`).
-/
import VCardKit.Html.Element

namespace VCardKit.Html

/-! ## Forests -/

namespace Forest

/-- The values of the parts that a forest holds. -/
def partValues (f : Forest) : List String := (f.outermost "value").map Element.ownValue

section

-- The classes of an element are those of its attributes, whatever stands inside.
variable {name tag : String} {attributes : Attributes}

/-- An element that carries the class stands for all that it holds. -/
theorem outermost_element_of_class (h : Element.hasClass { tag, attributes } name = true)
    (text : String) (children : Forest) (tail : String) (rest : Forest) :
    (element tag attributes text children tail rest).outermost name =
      ⟨tag, attributes, text, children⟩ :: rest.outermost name :=
  if_pos h

theorem outermost_element_of_not_class (h : Element.hasClass { tag, attributes } name = false)
    (text : String) (children : Forest) (tail : String) (rest : Forest) :
    (element tag attributes text children tail rest).outermost name =
      children.outermost name ++ rest.outermost name :=
  if_neg (Bool.eq_false_iff.1 h)

theorem partValues_element_of_part (h : Element.hasClass { tag, attributes } "value" = true)
    (text : String) (children : Forest) (tail : String) (rest : Forest) :
    (element tag attributes text children tail rest).partValues =
      Element.ownValue ⟨tag, attributes, text, children⟩ :: rest.partValues :=
  congrArg (List.map Element.ownValue) (outermost_element_of_class h text children tail rest)

theorem partValues_element_of_not_part (h : Element.hasClass { tag, attributes } "value" = false)
    (text : String) (children : Forest) (tail : String) (rest : Forest) :
    (element tag attributes text children tail rest).partValues =
      children.partValues ++ rest.partValues := by
  rw [partValues, outermost_element_of_not_class h, List.map_append]
  rfl

end

theorem outermost_eq_nil_iff {name : String} {f : Forest} :
    f.outermost name = [] ↔ ∀ e ∈ f.elements, e.hasClass name = false := by
  induction f with
  | nil => simp [outermost, elements]
  | element tag attributes text children tail rest ihc ihr =>
    simp only [outermost, elements, List.forall_mem_cons, List.forall_mem_append, ← ihc, ← ihr]
    split
    · next h => simp [h]
    · next h => simp [h]
  | comment text tail rest ih => exact ih

theorem partValues_eq_nil_iff {f : Forest} :
    f.partValues = [] ↔ ∀ e ∈ f.elements, e.hasClass "value" = false := by
  rw [partValues, List.map_eq_nil_iff, outermost_eq_nil_iff]

end Forest

namespace Element

variable {e e' : Element}

/-! ## Tags and attributes -/

theorem attr_congr (h : e.attributes = e'.attributes) (name : String) :
    e.attr name = e'.attr name := by
  rw [attr, attr, attrNamed, attrNamed, h]

theorem hasClass_congr (h : e.attributes = e'.attributes) (name : String) :
    e.hasClass name = e'.hasClass name := by
  rw [hasClass, hasClass, classNames, classNames, attr_congr h]

theorem title?_congr (htag : e.tag = e'.tag) (h : e.attributes = e'.attributes) :
    e.title? = e'.title? := by
  rw [title?, title?, tagName, tagName, htag, attr_congr h]

/-! ## Values -/

theorem value_of_title {title : String} (h : e.title? = some title) :
    e.value = title := by
  rw [value, h]

theorem value_of_no_parts (h : e.title? = none) (hparts : e.children.partValues = []) :
    e.value = e.ownValue := by
  have hnil : e.valueParts = [] := List.map_eq_nil_iff.1 hparts
  rw [value, h, hnil]

theorem value_of_parts (h : e.title? = none) (hparts : e.children.partValues ≠ []) :
    e.value = Text.strip (String.join e.children.partValues) := by
  have hne : e.valueParts ≠ [] := fun hnil => hparts (congrArg (List.map ownValue) hnil)
  obtain ⟨part, parts, hcons⟩ := List.exists_cons_of_ne_nil hne
  have hvalues : e.children.partValues = (part :: parts).map ownValue :=
    congrArg (List.map ownValue) hcons
  rw [value, h, hcons, hvalues]

/-- The value hangs on the title, the values of the parts, and the value of its own. -/
theorem value_congr (htitle : e.title? = e'.title?)
    (hparts : e.children.partValues = e'.children.partValues) (hown : e.ownValue = e'.ownValue) :
    e.value = e'.value := by
  cases h : e.title? with
  | some title => rw [value_of_title h, value_of_title (htitle ▸ h)]
  | none =>
    by_cases hnil : e.children.partValues = []
    · rw [value_of_no_parts h hnil, value_of_no_parts (htitle ▸ h) (hparts ▸ hnil), hown]
    · rw [value_of_parts h hnil, value_of_parts (htitle ▸ h) (hparts ▸ hnil), hparts]

theorem ownValue_congr (htitle : e.title? = e'.title?)
    (htext : e.visibleText = e'.visibleText) : e.ownValue = e'.ownValue := by
  rw [ownValue, ownValue, htitle, htext]

end Element

end VCardKit.Html
