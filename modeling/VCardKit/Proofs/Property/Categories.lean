/-
  Categories through the three formats. Each format loses something else: a line trims the
  categories, drops the blank ones and normalises their line breaks; an element without categories
  looks like one without a value; slots make a short list a single value, which is read as a list
  all the same.
-/
import VCardKit.Proofs.Property.Transfer
import VCardKit.Proofs.TaggedValue.Slot
import VCardKit.Proofs.TaggedValue.TextForm
import VCardKit.Proofs.Xml.Element

namespace VCardKit

namespace Categories

/-- The texts without the blanks around them; a blank text is left out. -/
def trimmed (values : List String) : List String := (values.map Text.strip).filter (· != "")

/-- A line without a value holds one blank category, which is left out. -/
theorem ofText_joinEscaped (values : List String) :
    ofText (Text.joinEscaped "," values) = ⟨trimmed (values.map Text.normalizeBreaks)⟩ := by
  have hsplit : Text.split (Text.joinEscaped "," values) "," = _ :=
    Shape.split_componentText values
  show Categories.mk (trimmed (Text.split (Text.joinEscaped "," values) ",")) = _
  rw [hsplit]
  split
  · next h =>
    subst h
    decide +kernel
  · rfl

/-- All texts that are appended to an element without children are read, in any version. -/
theorem readXml_appendAll (p : Property Categories) (values : List String) (tag : String)
    (text : Option String) (version version' : Version) (mode : Mode) :
    readXml p ⟨(Xml.PropertyElement.appendAll ⟨⟨tag, text, []⟩, version⟩ "text" values).element,
        version'⟩ mode =
      if values = [] then .failed (.missing [.ofType (some .text)]) p.content
      else .done [] ⟨values⟩ := by
  have hall : Xml.PropertyElement.all ⟨(Xml.PropertyElement.appendAll ⟨⟨tag, text, []⟩, version⟩
      "text" values).element, version'⟩ "text" = values :=
    Xml.PropertyElement.all_appendAll_self values ⟨⟨tag, text, []⟩, version⟩ "text"
  rw [readXml, hall]
  cases values <;> rfl

/-! ## The three formats -/

variable (w r : Property Categories)

theorem transfersText :
    w.TransfersText r ⟨trimmed (w.content.values.map Text.normalizeBreaks)⟩ := by
  intro parameters version version' mode mode'
  exact ⟨Text.joinEscaped "," w.content.values, rfl,
    Property.readText_of_done (congrArg (Attempt.done []) (ofText_joinEscaped w.content.values))⟩

theorem transfersXml (h : w.content.values ≠ []) : w.TransfersXml r w.content := by
  intro tag text parameters version version' mode mode'
  have hread := readXml_appendAll { r with parameters } w.content.values tag text version version'
    mode'
  rw [if_neg h] at hread
  exact ⟨_, rfl, Property.readXml_of_done hread⟩

theorem refusesXml (h : w.content.values = []) : w.RefusesXml r := by
  intro tag text parameters version version' mode mode'
  have hread := readXml_appendAll { r with parameters } w.content.values tag text version version'
    mode'
  rw [if_pos h] at hread
  exact ⟨_, rfl, _, congrArg (Property.attempt { r with parameters }) hread⟩

theorem transfersJson : w.TransfersJson r w.content := by
  intro dataType parameters version version'
  have hvalues : (Shape.ofSlots (Shape.multi w.content.values).toSlots).asMulti =
      w.content.values := Shape.asMulti_ofSlots_toSlots (.multi w.content.values)
  exact ⟨⟨some .text, .multi w.content.values⟩, rfl, Property.readJson_of_done
    (congrArg (fun values => Attempt.done [] (Categories.mk values)) hvalues)⟩

end Categories

namespace AnyProperty

/-- **Categories come back from every format as far as it can hold them.** From a line come the
trimmed categories that are not blank, with their line breaks normalised; from an element all of
them as they were, and a failure if there are none; from slots all of them, however many. -/
theorem transfers_categories {w r : AnyProperty} {c old : Categories}
    (hw : w.content = .categories c) (hr : r.content = .categories old) :
    w.TransfersText r
        (.categories ⟨Categories.trimmed (c.values.map Text.normalizeBreaks)⟩) ∧
      (c.values ≠ [] → w.TransfersXml r (.categories c)) ∧
      (c.values = [] → w.RefusesXml r) ∧
      w.TransfersJson r (.categories c) := by
  rw [Property.eq_wrapped hw, Property.eq_wrapped hr]
  exact ⟨(Categories.transfersText _ _).wrapped,
    fun h => (Categories.transfersXml (w.withContent c) _ h).wrapped,
    fun h => (Categories.refusesXml (w.withContent c) _ h).wrapped,
    (Categories.transfersJson _ _).wrapped⟩

/-- Backslashes, blanks and line breaks at the ends of categories, and no categories at all. -/
theorem transfers_categories_borders :
    let full : AnyProperty :=
      { typeName := "CATEGORIES", content := .categories ⟨["a,\\", " \r\n", "\tb;\r"]⟩ }
    let empty : AnyProperty := { typeName := "CATEGORIES", content := .categories {} }
    full.TransfersText empty (.categories ⟨["a,\\", "b;"]⟩) ∧
      full.TransfersXml empty full.content ∧ empty.RefusesXml full ∧
      full.TransfersJson empty full.content ∧ empty.TransfersJson full empty.content := by
  intro full empty
  obtain ⟨htext, hxml, -, hjson⟩ := transfers_categories (w := full) (r := empty) rfl rfl
  obtain ⟨-, -, hrefuses, hempty⟩ := transfers_categories (w := empty) (r := full) rfl rfl
  have htrimmed : Categories.trimmed (["a,\\", " \r\n", "\tb;\r"].map Text.normalizeBreaks) =
      ["a,\\", "b;"] := by decide +kernel
  rw [htrimmed] at htext
  exact ⟨htext, hxml (List.cons_ne_nil _ _), hrefuses rfl, hjson, hempty⟩

end AnyProperty

end VCardKit
