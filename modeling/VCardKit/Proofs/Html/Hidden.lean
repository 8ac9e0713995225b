/-
  What deleted text and the names of types contribute to a value. A context is a row of siblings in
  which the inside of one element, at any depth, is left open. If that element is hidden, its inside
  is no visible text; but the parts of a value are looked for everywhere, in hidden elements too. So
  the inside of a hidden element has no influence on a value exactly if the value is a title, or the
  element lies in a part already (`value_fill_iff`); elsewhere a part that is put into it is taken
  into the value.
-/
import VCardKit.Proofs.Html.Element
import VCardKit.Proofs.Text.Blank

namespace VCardKit.Html

/-! ## Contexts -/

/-- A row of siblings with one element, among them or below, whose inside is left open. -/
inductive Context where
  | here (tag : String) (attributes : Attributes) (tail : String) (rest : Forest)
  | inside (tag : String) (attributes : Attributes) (text : String) (children : Context)
      (tail : String) (rest : Forest)
  | behind (tag : String) (attributes : Attributes) (text : String) (children : Forest)
      (tail : String) (rest : Context)
  | behindComment (text tail : String) (rest : Context)

namespace Context

/-- The siblings with a text and children inside the open element. -/
def fill (text : String) (children : Forest) : Context → Forest
  | here tag attributes tail rest => .element tag attributes text children tail rest
  | inside tag attributes own context tail rest =>
    .element tag attributes own (context.fill text children) tail rest
  | behind tag attributes own siblings tail rest =>
    .element tag attributes own siblings tail (rest.fill text children)
  | behindComment comment tail rest => .comment comment tail (rest.fill text children)

/-- The open element, with nothing inside. -/
def hole : Context → Element
  | here tag attributes _ _ => { tag, attributes }
  | inside _ _ _ context _ _ => context.hole
  | behind _ _ _ _ _ rest => rest.hole
  | behindComment _ _ rest => rest.hole

/-- Whether the open element lies inside an element that carries a class. -/
def isWithin (name : String) : Context → Bool
  | here _ _ _ _ => false
  | inside tag attributes _ context _ _ =>
    Element.hasClass { tag, attributes } name || context.isWithin name
  | behind _ _ _ _ _ rest => rest.isWithin name
  | behindComment _ _ rest => rest.isWithin name

/-- Every element below can be opened. -/
theorem exists_fill_eq {f : Forest} {e : Element} (h : e ∈ f.elements) :
    ∃ c : Context, c.hole = { tag := e.tag, attributes := e.attributes } ∧
      c.fill e.text e.children = f := by
  induction f with
  | nil => exact absurd h List.not_mem_nil
  | element tag attributes text children tail rest ihc ihr =>
    rcases List.mem_cons.1 h with rfl | h
    · exact ⟨.here tag attributes tail rest, rfl, rfl⟩
    rcases List.mem_append.1 h with h | h
    · obtain ⟨c, hhole, hfill⟩ := ihc h
      exact ⟨.inside tag attributes text c tail rest, hhole, by rw [fill, hfill]⟩
    · obtain ⟨c, hhole, hfill⟩ := ihr h
      exact ⟨.behind tag attributes text children tail c, hhole, by rw [fill, hfill]⟩
  | comment text tail rest ih =>
    obtain ⟨c, hhole, hfill⟩ := ih h
    exact ⟨.behindComment text tail c, hhole, by rw [fill, hfill]⟩

/-! ## Visible text -/

variable {c : Context}

theorem visibleText_fill (h : c.hole.isHidden = true) (text text' : String)
    (children children' : Forest) :
    (c.fill text children).visibleText = (c.fill text' children').visibleText := by
  induction c with
  | here tag attributes tail rest =>
    have hhidden : Element.isHidden ⟨tag, attributes, text, children⟩ = true := h
    have hhidden' : Element.isHidden ⟨tag, attributes, text', children'⟩ = true := h
    simp only [fill, Forest.visibleText, hhidden, hhidden', if_true]
    rfl
  | inside tag attributes own context tail rest ih =>
    simp only [fill, Forest.visibleText, ih h]
    rfl
  | behind tag attributes own siblings tail rest ih =>
    simp only [fill, Forest.visibleText, ih h]
  | behindComment comment tail rest ih =>
    simp only [fill, Forest.visibleText, ih h]

/-! ## Parts -/

/-- Inside a part there are no further parts, and hidden text does not count. -/
theorem partValues_fill_of_isWithin (hhidden : c.hole.isHidden = true)
    (h : c.isWithin "value" = true) (text text' : String) (children children' : Forest) :
    (c.fill text children).partValues = (c.fill text' children').partValues := by
  induction c with
  | here tag attributes tail rest => exact absurd h Bool.false_ne_true
  | inside tag attributes own context tail rest ih =>
    cases hpart : Element.hasClass { tag, attributes } "value" with
    | true =>
      have hown : Element.ownValue ⟨tag, attributes, own, context.fill text children⟩ =
          Element.ownValue ⟨tag, attributes, own, context.fill text' children'⟩ := by
        have hcontext : context.hole.isHidden = true := hhidden
        refine Element.ownValue_congr rfl ?_
        rw [Element.visibleText, Element.visibleText,
          visibleText_fill hcontext text text' children children']
      rw [fill, fill, Forest.partValues_element_of_part hpart,
        Forest.partValues_element_of_part hpart, hown]
    | false =>
      rw [isWithin, hpart, Bool.false_or] at h
      rw [fill, fill, Forest.partValues_element_of_not_part hpart,
        Forest.partValues_element_of_not_part hpart, ih hhidden h]
  | behind tag attributes own siblings tail rest ih =>
    cases hpart : Element.hasClass { tag, attributes } "value" with
    | true =>
      rw [fill, fill, Forest.partValues_element_of_part hpart,
        Forest.partValues_element_of_part hpart, ih hhidden h]
    | false =>
      rw [fill, fill, Forest.partValues_element_of_not_part hpart,
        Forest.partValues_element_of_not_part hpart, ih hhidden h]
  | behindComment comment tail rest ih => exact ih hhidden h

/-- Elsewhere the parts inside the open element stand between those in front of it and those
behind. -/
theorem exists_partValues_fill (hhole : c.hole.hasClass "value" = false)
    (h : c.isWithin "value" = false) :
    ∃ before after : List String, ∀ (text : String) (children : Forest),
      (c.fill text children).partValues = before ++ children.partValues ++ after := by
  induction c with
  | here tag attributes tail rest =>
    refine ⟨[], rest.partValues, fun text children => ?_⟩
    exact Forest.partValues_element_of_not_part hhole text children tail rest
  | inside tag attributes own context tail rest ih =>
    obtain ⟨hpart, hwithin⟩ := Bool.or_eq_false_iff.1 h
    obtain ⟨before, after, hfill⟩ := ih hhole hwithin
    refine ⟨before, after ++ rest.partValues, fun text children => ?_⟩
    rw [fill, Forest.partValues_element_of_not_part hpart, hfill, List.append_assoc]
  | behind tag attributes own siblings tail rest ih =>
    obtain ⟨before, after, hfill⟩ := ih hhole h
    cases hpart : Element.hasClass { tag, attributes } "value" with
    | true =>
      refine ⟨Element.ownValue ⟨tag, attributes, own, siblings⟩ :: before, after,
        fun text children => ?_⟩
      rw [fill, Forest.partValues_element_of_part hpart, hfill]
      rfl
    | false =>
      refine ⟨siblings.partValues ++ before, after, fun text children => ?_⟩
      rw [fill, Forest.partValues_element_of_not_part hpart, hfill, ← List.append_assoc,
        ← List.append_assoc]
  | behindComment comment tail rest ih => exact ih hhole h

end Context

/-! ## Values -/

namespace Element

variable {e : Element} {c : Context}

/-- The element with a text and children inside the open element of a context. -/
def filled (e : Element) (c : Context) (text : String) (children : Forest) : Element :=
  { e with children := c.fill text children }

section

variable (text text' : String) (children children' : Forest)

theorem value_filled_of_title (h : e.title? ≠ none) :
    (e.filled c text children).value = (e.filled c text' children').value := by
  obtain ⟨title, htitle⟩ := Option.ne_none_iff_exists'.1 h
  have hfilled : (e.filled c text children).title? = some title := htitle
  have hfilled' : (e.filled c text' children').title? = some title := htitle
  rw [value_of_title hfilled, value_of_title hfilled']

/-- What is put into a hidden element is seen only if it changes the values of the parts. -/
theorem value_filled_of_partValues (hhidden : c.hole.isHidden = true)
    (h : (c.fill text children).partValues = (c.fill text' children').partValues) :
    (e.filled c text children).value = (e.filled c text' children').value := by
  refine value_congr rfl h (ownValue_congr rfl ?_)
  exact congrArg (Text.collapse e.text.toList ++ ·)
    (Context.visibleText_fill hhidden text text' children children')

theorem value_filled_of_isWithin (hhidden : c.hole.isHidden = true)
    (h : c.isWithin "value" = true) :
    (e.filled c text children).value = (e.filled c text' children').value :=
  value_filled_of_partValues text text' children children' hhidden
    (Context.partValues_fill_of_isWithin hhidden h text text' children children')

/-- Where no part is put in and none was there, nothing changes. -/
theorem value_filled_of_no_parts (hhidden : c.hole.isHidden = true)
    (hhole : c.hole.hasClass "value" = false)
    (h : ∀ d ∈ children.elements, d.hasClass "value" = false)
    (h' : ∀ d ∈ children'.elements, d.hasClass "value" = false) :
    (e.filled c text children).value = (e.filled c text' children').value := by
  cases hwithin : c.isWithin "value" with
  | true => exact value_filled_of_isWithin text text' children children' hhidden hwithin
  | false =>
    obtain ⟨before, after, hfill⟩ := Context.exists_partValues_fill hhole hwithin
    refine value_filled_of_partValues text text' children children' hhidden ?_
    rw [hfill, hfill, Forest.partValues_eq_nil_iff.2 h, Forest.partValues_eq_nil_iff.2 h']

end

/-- A character that is not blank shows among parts, also when the whole is stripped. -/
theorem toList_strip_join {x : Char} (h : Text.isBlank x = false) (before after : List String) :
    (Text.strip (String.join (before ++ [String.singleton x] ++ after))).toList =
      Text.trimLeft (before.flatMap String.toList) ++
        x :: Text.trimRight (after.flatMap String.toList) := by
  rw [← Text.trim_append_cons h]
  simp [Text.strip, String.toList_join]

/-- A part with one character. -/
def partOf (x : Char) : Forest :=
  .element "span" [({ localName := "class" }, "value")] (String.singleton x) .nil "" .nil

/-- A part that is put into an element outside all parts is taken into the value. -/
theorem value_filled_ne (htitle : e.title? = none) (hhole : c.hole.hasClass "value" = false)
    (hwithin : c.isWithin "value" = false) :
    (e.filled c "" (partOf 'a')).value ≠ (e.filled c "" (partOf 'b')).value := by
  obtain ⟨before, after, hfill⟩ := Context.exists_partValues_fill hhole hwithin
  have hvalue : ∀ x : Char, (partOf x).partValues = [String.singleton x] →
      (e.filled c "" (partOf x)).value =
        Text.strip (String.join (before ++ [String.singleton x] ++ after)) := by
    intro x hx
    have htitle' : (e.filled c "" (partOf x)).title? = none := htitle
    have hparts : (e.filled c "" (partOf x)).children.partValues =
        before ++ [String.singleton x] ++ after := by
      rw [← hx]
      exact hfill "" (partOf x)
    rw [value_of_parts htitle' (by simp [hparts]), hparts]
  intro heq
  rw [hvalue 'a' rfl, hvalue 'b' rfl] at heq
  have hlists := congrArg String.toList heq
  rw [toList_strip_join (by decide), toList_strip_join (by decide)] at hlists
  exact absurd (List.cons.inj (List.append_cancel_left hlists)).1 (by decide)

/-- **When hidden contents have no influence on a value.** The inside of a hidden element that is no
part can be replaced by anything without effect on the value exactly if the value is a title, or the
hidden element lies in a part. Elsewhere it can be replaced if no part stands in it, neither before
nor after. -/
theorem value_filled_eq_iff (e : Element) (c : Context) (hhidden : c.hole.isHidden = true)
    (hhole : c.hole.hasClass "value" = false) :
    ((∀ text text' children children',
        (e.filled c text children).value = (e.filled c text' children').value) ↔
      e.title? ≠ none ∨ c.isWithin "value" = true) ∧
    ∀ text text' children children', (∀ d ∈ children.elements, d.hasClass "value" = false) →
      (∀ d ∈ children'.elements, d.hasClass "value" = false) →
        (e.filled c text children).value = (e.filled c text' children').value := by
  refine ⟨⟨fun h => ?_, ?_⟩, fun text text' children children' h h' => ?_⟩
  · cases hwithin : c.isWithin "value" with
    | true => exact .inr rfl
    | false =>
      exact .inl fun htitle =>
        value_filled_ne htitle hhole hwithin (h "" "" (partOf 'a') (partOf 'b'))
  · rintro (htitle | hwithin) text text' children children'
    · exact value_filled_of_title text text' children children' htitle
    · exact value_filled_of_isWithin text text' children children' hhidden hwithin
  · exact value_filled_of_no_parts text text' children children' hhidden hhole h h'

/-- Deleted text in a part of a value. -/
theorem value_filled_eq_iff_in_part :
    let e : Element := { tag := "div" }
    let c : Context := .inside "span" [({ localName := "class" }, "value")] "v"
      (.here "del" [] "w" .nil) "" .nil
    c.hole.isHidden = true ∧ c.hole.hasClass "value" = false ∧
      ∀ text text' children children',
        (e.filled c text children).value = (e.filled c text' children').value := by
  intro e c
  have hhidden : c.hole.isHidden = true := by decide
  have hhole : c.hole.hasClass "value" = false := by decide
  exact ⟨hhidden, hhole, (value_filled_eq_iff e c hhidden hhole).1.2 (.inr (by decide))⟩

/-- A part in deleted text outside all parts is the value. -/
theorem value_of_deleted_part :
    let e : Element := { tag := "div", text := "own" }
    let c : Context := .here "del" [] "" .nil
    let deleted : Forest :=
      .element "span" [({ localName := "class" }, "value")] "in del" .nil "" .nil
    c.hole.isHidden = true ∧ c.hole.hasClass "value" = false ∧
      (e.filled c "" .nil).value = "own" ∧ (e.filled c "" deleted).value = "in del" := by
  decide

end Element

end VCardKit.Html
