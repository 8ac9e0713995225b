/-
  The view that a property has of its element: when nothing is found among the visible children, and
  what is found after a child was appended. A new child is in the namespace of the element and so
  visible to it, whatever the tag of the element is: a namespace that was cut out of a tag holds no
  closing brace, so a tag that is put together with it is cut at the same place again.
-/
import VCardKit.Xml.Element
import Mathlib.Data.List.TakeWhile

namespace VCardKit.Xml

/-! ## Tags -/

theorem not_mem_of_splitTag {tag ns : String} (h : (splitTag tag).1 = some ns) :
    '\x7d' ∉ ns.toList := by
  unfold splitTag at h
  split at h
  · next rest _ =>
    cases h
    rw [String.toList_ofList]
    intro hmem
    have := List.mem_takeWhile_imp hmem
    simp at this
  · cases h

theorem splitTag_qualify {ns : String} (h : '\x7d' ∉ ns.toList) (name : String) :
    splitTag (qualify ns name) = (some ns, name) := by
  have htag : (qualify ns name).toList = '\x7b' :: (ns.toList ++ '\x7d' :: name.toList) := by
    simp [qualify]
  have hns : ∀ c ∈ ns.toList, (c != '\x7d') = true := by
    intro c hc
    rw [bne_iff_ne]
    rintro rfl
    exact h hc
  have hspace : (ns.toList ++ '\x7d' :: name.toList).takeWhile (· != '\x7d') = ns.toList := by
    rw [List.takeWhile_append_of_pos hns, List.takeWhile_cons_of_neg (by simp), List.append_nil]
  have hname : (ns.toList ++ '\x7d' :: name.toList).dropWhile (· != '\x7d') =
      '\x7d' :: name.toList := by
    rw [List.dropWhile_append_of_pos hns, List.dropWhile_cons_of_neg (by simp)]
  rw [splitTag, htag]
  simp only [hspace, hname, List.drop_one, List.tail_cons, String.ofList_toList]

namespace PropertyElement

variable {e : PropertyElement} {name : String}

theorem first?_eq_none_iff : e.first? [name] = none ↔ ∀ c ∈ e.visible, c.1 ≠ name := by
  rw [first?, Option.map_eq_none_iff, List.find?_eq_none]
  simp only [List.contains_iff_mem, List.mem_singleton, ne_eq]

theorem all_eq_nil_iff : e.all name = [] ↔ ∀ c ∈ e.visible, c.1 ≠ name := by
  rw [all, List.map_eq_nil_iff, List.filter_eq_nil_iff]
  simp only [decide_eq_true_eq, ne_eq]

theorem firstValue?_eq_none_iff : e.firstValue? = none ↔ e.visible = [] :=
  List.head?_eq_none_iff

/-! ## Elements that look the same -/

section

variable {e' : PropertyElement} (h : e.visible = e'.visible)

include h

theorem first?_congr (names : List String) : e.first? names = e'.first? names := by
  rw [first?, first?, h]

theorem all_congr (name : String) : e.all name = e'.all name := by
  rw [all, all, h]

theorem firstValue?_congr : e.firstValue? = e'.firstValue? := by
  rw [firstValue?, firstValue?, h]

end

/-! ## New children -/

theorem not_mem_nspace (e : PropertyElement) : '\x7d' ∉ e.nspace.toList := by
  rw [nspace]
  cases h : (splitTag e.element.tag).1 with
  | none => decide
  | some ns => exact not_mem_of_splitTag h

theorem visible?_child (e : PropertyElement) (name : String) (value : Option String) :
    visible? e.nspace (e.child name value) = some (name, value.getD "") := by
  rw [child, visible?, splitTag_qualify e.not_mem_nspace]
  exact if_pos rfl

theorem visible_append (e : PropertyElement) (name : String) (value : Option String) :
    (e.append name value).visible = e.visible ++ [(name, value.getD "")] := by
  show (e.element.children ++ [e.child name value]).filterMap (visible? e.nspace) = _
  rw [List.filterMap_append, List.filterMap_cons_some (e.visible?_child name value)]
  rfl

/-- What was found first is found still; a new child is found where nothing was. -/
theorem first?_append (e : PropertyElement) (name : String) (value : Option String)
    (names : List String) :
    (e.append name value).first? names =
      (e.first? names).or (if name ∈ names then some (value.getD "") else none) := by
  rw [first?, first?, visible_append, List.find?_append, Option.map_or]
  congr 1
  by_cases h : name ∈ names <;> simp [h]

theorem all_append (e : PropertyElement) (name : String) (value : Option String)
    (other : String) :
    (e.append name value).all other =
      e.all other ++ if name = other then [value.getD ""] else [] := by
  rw [all, all, visible_append, List.filter_append, List.map_append]
  congr 1
  by_cases h : name = other <;> simp [h]

section

variable (version version' : Version) (tag : String) (text : Option String) (name : String)
  (value : Option String)

/-- The element with nothing but one child. What is found in it does not depend on the version. -/
theorem visible_append_childless :
    visible ⟨(append ⟨⟨tag, text, []⟩, version⟩ name value).element, version'⟩ =
      [(name, value.getD "")] :=
  visible_append ⟨⟨tag, text, []⟩, version⟩ name value

theorem first?_append_childless :
    first? ⟨(append ⟨⟨tag, text, []⟩, version⟩ name value).element, version'⟩ [name] =
      some (value.getD "") := by
  rw [first?, visible_append_childless]
  simp

theorem firstValue?_append_childless :
    firstValue? ⟨(append ⟨⟨tag, text, []⟩, version⟩ name value).element, version'⟩ =
      some (name, value.getD "") := by
  rw [firstValue?, visible_append_childless]
  rfl

end

/-- Values that are appended under one name are found after those that stood there. -/
theorem all_appendAll_self (values : List String) (e : PropertyElement) (name : String) :
    (e.appendAll name values).all name = e.all name ++ values := by
  induction values generalizing e with
  | nil => exact (List.append_nil _).symm
  | cons value rest ih =>
    show ((e.append name (some value)).appendAll name rest).all name = _
    rw [ih, all_append, if_pos rfl, List.append_assoc]
    rfl

end PropertyElement

end VCardKit.Xml
