/-
  The layout of a page's source. Two trees are reflowed into each other when they differ in the runs
  of blanks of their texts alone, so that a line that is broken elsewhere, or indented otherwise,
  makes no difference; tags, attributes and comments agree (`Forest.Reflowed`). Every piece of text
  is collapsed where it stands, so the visible texts of the trees are the same, and with them all
  values and whatever a property reads. A line break in the source is therefore never taken for one
  in the value.
-/
import VCardKit.Proofs.Html.Element
import VCardKit.Proofs.Property.Sight
import VCardKit.Proofs.Text.Blank
import Mathlib.Data.List.Forall2

namespace VCardKit.Html

/-! ## Trees -/

/-- Two rows of siblings that differ in the runs of blanks of their texts alone. -/
inductive Forest.Reflowed : Forest → Forest → Prop
  | nil : Reflowed .nil .nil
  | element (tag : String) (attributes : Attributes) {text text' tail tail' : String}
      {children children' rest rest' : Forest}
      (htext : Text.Reflowed text.toList text'.toList) (hchildren : Reflowed children children')
      (htail : Text.Reflowed tail.toList tail'.toList) (hrest : Reflowed rest rest') :
    Reflowed (.element tag attributes text children tail rest)
      (.element tag attributes text' children' tail' rest')
  | comment (text : String) {tail tail' : String} {rest rest' : Forest}
      (htail : Text.Reflowed tail.toList tail'.toList) (hrest : Reflowed rest rest') :
    Reflowed (.comment text tail rest) (.comment text tail' rest')

/-- Two elements that differ in the runs of blanks of the texts inside them alone. -/
structure Element.Reflowed (e e' : Element) : Prop where
  tag : e.tag = e'.tag
  attributes : e.attributes = e'.attributes
  text : Text.Reflowed e.text.toList e'.text.toList
  children : e.children.Reflowed e'.children

namespace Forest.Reflowed

variable {f f' : Forest}

theorem visibleText_eq (h : f.Reflowed f') : f.visibleText = f'.visibleText := by
  induction h with
  | nil => rfl
  | element tag attributes htext _ htail _ ihc ihr =>
    simp only [visibleText, htext.collapse_eq, htail.collapse_eq, ihc, ihr]
    rfl
  | comment text htail _ ih => rw [visibleText, visibleText, htail.collapse_eq, ih]

theorem elements (h : f.Reflowed f') : List.Forall₂ Element.Reflowed f.elements f'.elements := by
  induction h with
  | nil => exact .nil
  | element tag attributes htext hchildren _ _ ihc ihr =>
    exact .cons ⟨rfl, rfl, htext, hchildren⟩ (List.rel_append ihc ihr)
  | comment text _ _ ih => exact ih

theorem outermost (h : f.Reflowed f') (name : String) :
    List.Forall₂ Element.Reflowed (f.outermost name) (f'.outermost name) := by
  induction h with
  | nil => exact .nil
  | element tag attributes htext hchildren _ _ ihc ihr =>
    -- Both elements carry the class, or neither does.
    cases hclass : Element.hasClass { tag, attributes } name with
    | true =>
      rw [outermost_element_of_class hclass, outermost_element_of_class hclass]
      exact .cons ⟨rfl, rfl, htext, hchildren⟩ ihr
    | false =>
      rw [outermost_element_of_not_class hclass, outermost_element_of_not_class hclass]
      exact List.rel_append ihc ihr
  | comment text _ _ ih => exact ih

end Forest.Reflowed

/-! ## Values -/

/-- What is equal for all reflowed elements is equal in a row for reflowed rows of elements. -/
theorem map_eq_of_forall₂ {β : Type} {f : Element → β} {l l' : List Element}
    (hf : ∀ {e e' : Element}, e.Reflowed e' → f e = f e')
    (h : List.Forall₂ Element.Reflowed l l') : l.map f = l'.map f := by
  induction h with
  | nil => rfl
  | cons h _ ih => rw [List.map_cons, List.map_cons, hf h, ih]

namespace Element.Reflowed

variable {e e' : Element}

theorem title?_eq (h : e.Reflowed e') : e.title? = e'.title? := title?_congr h.tag h.attributes

theorem ownValue_eq (h : e.Reflowed e') : e.ownValue = e'.ownValue := by
  refine ownValue_congr h.title?_eq ?_
  rw [visibleText, visibleText, h.text.collapse_eq, h.children.visibleText_eq]

theorem value_eq (h : e.Reflowed e') : e.value = e'.value :=
  value_congr h.title?_eq (map_eq_of_forall₂ ownValue_eq (h.children.outermost "value"))
    h.ownValue_eq

theorem withClass (h : e.Reflowed e') (name : String) :
    List.Forall₂ Element.Reflowed (e.withClass name) (e'.withClass name) :=
  List.rel_filter (fun _ _ h => iff_of_eq (congrArg (· = true) (hasClass_congr h.attributes name)))
    h.children.elements

theorem allValues_eq (h : e.Reflowed e') (name : String) : e.allValues name = e'.allValues name :=
  map_eq_of_forall₂ value_eq (h.withClass name)

theorem firstValue?_eq (h : e.Reflowed e') (name : String) :
    e.firstValue? name = e'.firstValue? name := by
  have hhead : (e.allValues name).head? = (e'.allValues name).head? := by rw [h.allValues_eq]
  rwa [allValues, allValues, List.head?_map, List.head?_map] at hhead

theorem types_eq (h : e.Reflowed e') : e.types = e'.types := by
  rw [types, types, h.allValues_eq]

/-! ## Properties -/

/-- An agent looks at the classes and at the link, which are attributes. -/
theorem readHtml_agent_eq (h : e.Reflowed e') (address : Option String) (p : Property Agent) :
    Agent.readHtml p ⟨.element e, address⟩ = Agent.readHtml p ⟨.element e', address⟩ := by
  simp only [Agent.readHtml, hasClass_congr h.attributes, attr_congr h.attributes, h.value_eq]
  rfl

theorem readHtml_eq (h : e.Reflowed e') (address : Option String) (p : AnyProperty) :
    p.readHtml ⟨.element e, address⟩ = p.readHtml ⟨.element e', address⟩ := by
  have hvalue : PageNode.value ⟨.element e, address⟩ = PageNode.value ⟨.element e', address⟩ :=
    h.value_eq
  exact congrArg p.attempt (AnyContent.readHtml_congr hvalue (h.readHtml_agent_eq address) p)

end Element.Reflowed

/-- **The layout of the source does not matter.** Reflowed elements have the same value, the same
values below for every class and the same types, and every property, whatever it held before, reads
the same from them, or fails in the same way. -/
theorem reads_eq_of_reflowed {e e' : Element} (h : e.Reflowed e') :
    e.value = e'.value ∧ (∀ name, e.firstValue? name = e'.firstValue? name) ∧
      (∀ name, e.allValues name = e'.allValues name) ∧ e.types = e'.types ∧
      ∀ (p : AnyProperty) (address : Option String),
        p.readHtml ⟨.element e, address⟩ = p.readHtml ⟨.element e', address⟩ :=
  ⟨h.value_eq, h.firstValue?_eq, h.allValues_eq, h.types_eq,
    fun p address => h.readHtml_eq address p⟩

/-- A line that is broken in the source and one that is not, in front of a line break element and
behind it, around a type and a comment. -/
theorem reads_eq_of_reflowed_lines :
    let type : Attributes := [({ localName := "class" }, "type")]
    let e : Element :=
      { tag := "div", text := "1 Main\n\tStreet "
        children := .element "br" [] "" .nil "\r\nAnytown"
          (.element "span" type "work\n" .nil " \u3000" (.comment "c" "x" .nil)) }
    let e' : Element :=
      { tag := "div", text := "1\u2028Main Street\x0c"
        children := .element "br" [] "" .nil " Anytown"
          (.element "span" type "work " .nil "\n" (.comment "c" "x" .nil)) }
    e.Reflowed e' ∧ e.value = e'.value ∧ e.types = e'.types ∧
      ∀ (p : AnyProperty) (address : Option String),
        p.readHtml ⟨.element e, address⟩ = p.readHtml ⟨.element e', address⟩ := by
  intro type e e'
  have hrest : Forest.Reflowed (.comment "c" "x" .nil) (.comment "c" "x" .nil) :=
    .comment "c" (by decide) .nil
  have hspan : Forest.Reflowed (.element "span" type "work\n" .nil " \u3000" (.comment "c" "x" .nil))
      (.element "span" type "work " .nil "\n" (.comment "c" "x" .nil)) :=
    .element "span" type (by decide) .nil (by decide) hrest
  have h : e.Reflowed e' :=
    ⟨rfl, rfl, by decide, .element "br" [] (by decide) .nil (by decide) hspan⟩
  obtain ⟨hvalue, -, -, htypes, hread⟩ := reads_eq_of_reflowed h
  exact ⟨h, hvalue, htypes, hread⟩

end VCardKit.Html
