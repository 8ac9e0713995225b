/-
  Foreign markup in the element of a property. Comments and children of another namespace are
  foreign, and so is whatever stands inside or behind a child. Two rows of children that differ in
  foreign markup alone (`SameOwn`) show the same children, in the same order and with the same
  texts; so the accessors give the same answers, and every reader comes to the same end.
-/
import VCardKit.Proofs.Property.Sight

namespace VCardKit

namespace Xml

/-! ## Children -/

/-- A node that does not belong to a namespace: a comment, or an element of another namespace. -/
inductive Foreign (ns : String) : Node → Prop
  | comment (text : String) (tail : Option String) : Foreign ns (.comment text tail)
  | element {tag space : String} (htag : (splitTag tag).1 = some space) (hspace : space ≠ ns)
      (text : Option String) (children : List Node) (tail : Option String) :
    Foreign ns (.element tag text children tail)

/-- Two rows of children that differ in foreign markup alone. Foreign nodes may stand in either row
at any place; of the others, the tags and the texts agree, but neither what is inside nor what
follows. -/
inductive SameOwn (ns : String) : List Node → List Node → Prop
  | nil : SameOwn ns [] []
  | insert {n : Node} {row row' : List Node} (hn : Foreign ns n) (h : SameOwn ns row row') :
    SameOwn ns row (n :: row')
  | delete {n : Node} {row row' : List Node} (hn : Foreign ns n) (h : SameOwn ns row row') :
    SameOwn ns (n :: row) row'
  | keep (tag : String) (text : Option String) (children children' : List Node)
      (tail tail' : Option String) {row row' : List Node} (h : SameOwn ns row row') :
    SameOwn ns (.element tag text children tail :: row)
      (.element tag text children' tail' :: row')

namespace PropertyElement

theorem visible?_of_foreign {ns : String} {n : Node} (h : Foreign ns n) : visible? ns n = none := by
  cases h with
  | comment => rfl
  | element htag hspace =>
    rw [visible?]
    split
    · next hnone => simp [hnone] at htag
    · next hsome =>
      rw [hsome] at htag
      rw [if_neg (Option.some.inj htag ▸ hspace)]

theorem filterMap_visible?_eq {ns : String} {row row' : List Node} (h : SameOwn ns row row') :
    row.filterMap (visible? ns) = row'.filterMap (visible? ns) := by
  induction h with
  | nil => rfl
  | insert hn _ ih => rw [List.filterMap_cons_none (visible?_of_foreign hn), ih]
  | delete hn _ ih => rw [List.filterMap_cons_none (visible?_of_foreign hn), ih]
  | keep tag text children children' tail tail' _ ih =>
    have hsame : visible? ns (.element tag text children tail) =
        visible? ns (.element tag text children' tail') := rfl
    rw [List.filterMap_cons, List.filterMap_cons, hsame, ih]

end PropertyElement

/-! ## Elements -/

section

variable {e e' : Element} {version : Version} (htag : e.tag = e'.tag)
  (h : SameOwn (PropertyElement.nspace ⟨e, version⟩) e.children e'.children)

include htag h

theorem visible_eq_of_sameOwn :
    PropertyElement.visible ⟨e, version⟩ = PropertyElement.visible ⟨e', version⟩ := by
  have hns : PropertyElement.nspace ⟨e, version⟩ = PropertyElement.nspace ⟨e', version⟩ := by
    simp only [PropertyElement.nspace, htag]
  rw [PropertyElement.visible, PropertyElement.visible, PropertyElement.filterMap_visible?_eq h, hns]

theorem readXml_eq_of_sameOwn (p : AnyProperty) (parameters : Parameters) (mode : Mode) :
    p.readXml parameters (.element e) version mode =
      p.readXml parameters (.element e') version mode :=
  congrArg (Property.attempt { p with parameters })
    (AnyContent.readXml_congr (visible_eq_of_sameOwn htag h) mode _)

end

/-- **Foreign markup has no influence on a reader.** Elements of the same tag whose children differ
in foreign markup alone show the same first text for any names, the same texts for every name and
the same first child, and every property, whatever it held before, reads the same from them, or
fails in the same way. -/
theorem reads_eq_of_sameOwn {e e' : Element} {version : Version} (htag : e.tag = e'.tag)
    (h : SameOwn (PropertyElement.nspace ⟨e, version⟩) e.children e'.children) :
    (∀ names, PropertyElement.first? ⟨e, version⟩ names =
      PropertyElement.first? ⟨e', version⟩ names) ∧
    (∀ name, PropertyElement.all ⟨e, version⟩ name = PropertyElement.all ⟨e', version⟩ name) ∧
    PropertyElement.firstValue? ⟨e, version⟩ = PropertyElement.firstValue? ⟨e', version⟩ ∧
    ∀ (p : AnyProperty) (parameters : Parameters) (mode : Mode),
      p.readXml parameters (.element e) version mode =
        p.readXml parameters (.element e') version mode := by
  have hvisible := visible_eq_of_sameOwn htag h
  exact ⟨PropertyElement.first?_congr hvisible, PropertyElement.all_congr hvisible,
    PropertyElement.firstValue?_congr hvisible, readXml_eq_of_sameOwn htag h⟩

/-- A gender without a namespace: a sex of another vocabulary stands in front of its own one in one
element, and a comment in the other one. -/
theorem reads_eq_of_sameOwn_gender :
    let e : Element := ⟨"gender", none,
      [.element "\x7bhttp://example.com/ns\x7dsex" (some "m") [] none,
        .element "sex" (some "f") [.comment "below" none] (some "\n"),
        .element "identity" (some "x") [] none]⟩
    let e' : Element := ⟨"gender", none,
      [.comment "sex" none, .element "sex" (some "f") [] none,
        .element "identity" (some "x") [] (some "tail"), .element "\x7b\x7dsex" none [] none]⟩
    SameOwn (PropertyElement.nspace ⟨e, .v4_0⟩) e.children e'.children ∧
      PropertyElement.firstValue? ⟨e, .v4_0⟩ = PropertyElement.firstValue? ⟨e', .v4_0⟩ ∧
      ∀ (p : AnyProperty) (parameters : Parameters) (mode : Mode),
        p.readXml parameters (.element e) .v4_0 mode =
          p.readXml parameters (.element e') .v4_0 mode := by
  intro e e'
  have hother : (splitTag "\x7bhttp://example.com/ns\x7dsex").1 = some "http://example.com/ns" := by
    decide
  have hempty : (splitTag "\x7b\x7dsex").1 = some "" := by decide
  have h : SameOwn (PropertyElement.nspace ⟨e, .v4_0⟩) e.children e'.children :=
    .delete (.element hother (by decide) _ _ _) <| .insert (.comment _ _) <|
      .keep _ _ _ _ _ _ <| .keep _ _ _ _ _ _ <|
        .insert (.element hempty (by decide) _ _ _) .nil
  have htag : e.tag = e'.tag := rfl
  obtain ⟨-, -, hfirst, hread⟩ := reads_eq_of_sameOwn htag h
  exact ⟨h, hfirst, hread⟩

end Xml

end VCardKit
