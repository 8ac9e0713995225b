/-
  Elements that grow at their end. An element extends another (`Extends`) if it has the same tag and
  text and the same children at its front, and if a property sees every child behind them. An
  appended child extends the element, whatever the tag of the element and the name of the child,
  since the namespace that the child is put in is the one that is looked for. So everything that was
  found before is found still, and the new child is found where nothing was
  (`append_isSeen`).
-/
import VCardKit.Proofs.Xml.Element

namespace VCardKit.Xml.PropertyElement

variable {e e' e'' : PropertyElement}

theorem nspace_congr (h : e.element.tag = e'.element.tag) : e.nspace = e'.nspace := by
  rw [nspace, nspace, h]

/-! ## Extensions -/

/-- An element with more children, behind the old ones, each of which a property sees. -/
structure Extends (e e' : PropertyElement) : Prop where
  version : e'.version = e.version
  tag : e'.element.tag = e.element.tag
  text : e'.element.text = e.element.text
  children : ∃ added, e'.element.children = e.element.children ++ added ∧
    ∀ n ∈ added, ∃ row, visible? e'.nspace n = some row

namespace Extends

theorem refl (e : PropertyElement) : Extends e e :=
  ⟨rfl, rfl, rfl, [], (List.append_nil _).symm, fun _ hn => absurd hn List.not_mem_nil⟩

theorem trans (h : Extends e e') (h' : Extends e' e'') : Extends e e'' := by
  obtain ⟨added, hchildren, hseen⟩ := h.children
  obtain ⟨added', hchildren', hseen'⟩ := h'.children
  refine ⟨h'.version.trans h.version, h'.tag.trans h.tag, h'.text.trans h.text,
    added ++ added', ?_, ?_⟩
  · rw [hchildren', hchildren, List.append_assoc]
  · intro n hn
    rcases List.mem_append.1 hn with hn | hn
    · rw [nspace_congr h'.tag]
      exact hseen n hn
    · exact hseen' n hn

/-- What is shown is what was shown before, and rows behind it. -/
theorem visible (h : Extends e e') : e.visible <+: e'.visible := by
  obtain ⟨added, hchildren, -⟩ := h.children
  rw [PropertyElement.visible, PropertyElement.visible, hchildren, nspace_congr h.tag,
    List.filterMap_append]
  exact List.prefix_append _ _

theorem first?_eq (h : Extends e e') {names : List String} {text : String}
    (hfirst : e.first? names = some text) : e'.first? names = some text := by
  obtain ⟨rows, hrows⟩ := h.visible
  rw [first?, Option.map_eq_some_iff] at hfirst
  obtain ⟨row, hfind, rfl⟩ := hfirst
  rw [first?, ← hrows, List.find?_append, hfind]
  rfl

theorem firstValue?_eq (h : Extends e e') {row : String × String}
    (hfirst : e.firstValue? = some row) : e'.firstValue? = some row := by
  obtain ⟨rows, hrows⟩ := h.visible
  rw [firstValue?] at hfirst
  rw [firstValue?, ← hrows, List.head?_append, hfirst]
  rfl

end Extends

theorem extends_append (e : PropertyElement) (name : String) (value : Option String) :
    Extends e (e.append name value) := by
  refine ⟨rfl, rfl, rfl, [e.child name value], rfl, ?_⟩
  intro n hn
  rw [List.mem_singleton.1 hn]
  exact ⟨_, e.visible?_child name value⟩

theorem extends_appendAll (e : PropertyElement) (name : String) (values : List String) :
    Extends e (e.appendAll name values) := by
  induction values generalizing e with
  | nil => exact Extends.refl e
  | cons value rest ih => exact (extends_append e name (some value)).trans (ih _)

/-! ## A new child -/

/-- The first text under a name is the first of all texts under it. -/
theorem first?_singleton (e : PropertyElement) (name : String) :
    e.first? [name] = (e.all name).head? := by
  have hnames : (fun c : String × String => [name].contains c.1) = fun c => decide (c.1 = name) := by
    funext c
    rw [Bool.eq_iff_iff, List.contains_iff_mem, List.mem_singleton, decide_eq_true_eq]
  rw [first?, all, List.head?_map, List.head?_filter, hnames]

/-- What an element shows once a child with a name and a text stands at its end, against what it
showed before. -/
structure ShowsLast (e : PropertyElement) (name text : String) (e' : PropertyElement) : Prop where
  all_self : e'.all name = e.all name ++ [text]
  all_of_ne : ∀ other, other ≠ name → e'.all other = e.all other
  first?_of_some : ∀ names found, e.first? names = some found → e'.first? names = some found
  first?_of_none : ∀ names, e.first? names = none →
    e'.first? names = if name ∈ names then some text else none
  firstValue?_of_some : ∀ row, e.firstValue? = some row → e'.firstValue? = some row
  firstValue?_of_none : e.firstValue? = none → e'.firstValue? = some (name, text)

theorem showsLast_append (e : PropertyElement) (name : String) (value : Option String) :
    ShowsLast e name (value.getD "") (e.append name value) where
  all_self := by rw [all_append, if_pos rfl]
  all_of_ne other h := by rw [all_append, if_neg h.symm, List.append_nil]
  first?_of_some _ _ h := (extends_append e name value).first?_eq h
  first?_of_none names h := by rw [first?_append, h, Option.none_or]
  firstValue?_of_some _ h := (extends_append e name value).firstValue?_eq h
  firstValue?_of_none h := by
    rw [firstValue?_eq_none_iff] at h
    rw [firstValue?, visible_append, h]
    rfl

/-- **Whatever is appended is seen, and nothing else changes.** Behind the children of an element of
any tag, a new child of any name is found under its name and under no other, with its text, which is
empty if it has none. What was found first is found first still. The version, the tag, the text and
the children that were there are unchanged. In every element, the first text under a name is the
first of all texts under it. -/
theorem append_isSeen (e : PropertyElement) (name : String) (value : Option String) :
    ShowsLast e name (value.getD "") (e.append name value) ∧
    Extends e (e.append name value) ∧
    ∀ other, e.first? [other] = (e.all other).head? :=
  ⟨showsLast_append e name value, extends_append e name value, e.first?_singleton⟩

end VCardKit.Xml.PropertyElement
