/-
  Properties with one text through the three formats. A kind with a text escapes it in a line, and
  reads it back with its line breaks normalised; in an element and in a tagged value the text stands
  as it is. A property that nobody registered escapes nothing: its line is its value, its element
  and its tagged value are written from that line, and the reader of elements takes the first child,
  whatever its name. A missing text is written as the empty one.
-/
import VCardKit.Proofs.Property.Transfer
import VCardKit.Proofs.Text.Escape
import VCardKit.Proofs.Xml.Element

namespace VCardKit

/-! ## Texts -/

namespace TextValue

variable (w r : Property TextValue)

theorem transfersText : w.TransfersText r ⟨some (Text.normalizeBreaks w.content.text)⟩ := by
  intro parameters version version' mode mode'
  have hread : Text.unescape (Text.escape w.content.text) =
      Text.normalizeBreaks w.content.text := Text.unescape_escape w.content.text
  refine ⟨Text.escape w.content.text, rfl, Property.readText_of_done ?_⟩
  rw [← hread]
  rfl

theorem readXml_of_first? {e : Xml.PropertyElement} {value : String}
    (h : e.first? ["text"] = some value) (p : Property TextValue) (mode : Mode) :
    readXml p e mode = .done [] ⟨some value⟩ := by
  rw [readXml, h]

theorem transfersXml : w.TransfersXml r ⟨some w.content.text⟩ := by
  intro tag text parameters version version' mode mode'
  have hfound := Xml.PropertyElement.first?_append_childless version version' tag text "text"
    (some w.content.text)
  exact ⟨_, rfl, Property.readXml_of_done (readXml_of_first? hfound _ mode')⟩

theorem transfersJson : w.TransfersJson r ⟨some w.content.text⟩ := by
  intro dataType parameters version version'
  exact ⟨.text w.content.text, rfl, Property.readJson_of_done rfl⟩

end TextValue

/-! ## Values of no kind -/

namespace RawValue

/-- The value; the empty text if it is missing. -/
def text (c : RawValue) : String := c.value.getD ""

variable (w r : Property RawValue)

theorem transfersText : w.TransfersText r ⟨some w.content.text⟩ := by
  intro parameters version version' mode mode'
  exact ⟨w.content.text, rfl, Property.readText_of_done rfl⟩

theorem readXml_of_firstValue? {e : Xml.PropertyElement} {name value : String}
    (h : e.firstValue? = some (name, value)) (p : Property RawValue) (mode : Mode) :
    readXml p e mode = .done [] ⟨some value⟩ := by
  rw [readXml, h]

theorem transfersXml : w.TransfersXml r ⟨some w.content.text⟩ := by
  intro tag text parameters version version' mode mode'
  have hfound := Xml.PropertyElement.firstValue?_append_childless version version' tag text
    "unknown" (some w.content.text)
  exact ⟨_, rfl, Property.readXml_of_done (readXml_of_firstValue? hfound _ mode')⟩

/-- The declared data type goes into the tagged value and has no effect on its text. -/
theorem transfersJson : w.TransfersJson r ⟨some w.content.text⟩ := by
  intro dataType parameters version version'
  exact ⟨⟨w.parameters.dataType?, .single (some w.content.text)⟩, rfl,
    Property.readJson_of_done rfl⟩

end RawValue

namespace AnyProperty

/-- **A single text comes back from every format.** The text of a kind that has one loses the style
of its line breaks in a line and nothing elsewhere; a value of no kind loses nothing anywhere,
whatever the parameters declare about it. -/
theorem transfers_singleText {w r : AnyProperty} :
    (∀ kind kind' c old, w.content = .text kind c → r.content = .text kind' old →
      w.TransfersText r (.text kind' ⟨some (Text.normalizeBreaks c.text)⟩) ∧
        w.TransfersXml r (.text kind' ⟨some c.text⟩) ∧
        w.TransfersJson r (.text kind' ⟨some c.text⟩)) ∧
    (∀ c old, w.content = .raw c → r.content = .raw old →
      w.TransfersText r (.raw ⟨some c.text⟩) ∧ w.TransfersXml r (.raw ⟨some c.text⟩) ∧
        w.TransfersJson r (.raw ⟨some c.text⟩)) := by
  refine ⟨fun kind kind' c old hw hr => ?_, fun c old hw hr => ?_⟩
  · rw [Property.eq_wrapped hw, Property.eq_wrapped hr]
    exact ⟨(TextValue.transfersText _ _).wrapped, (TextValue.transfersXml _ _).wrapped,
      (TextValue.transfersJson _ _).wrapped⟩
  · rw [Property.eq_wrapped hw, Property.eq_wrapped hr]
    exact ⟨(RawValue.transfersText _ _).wrapped, (RawValue.transfersXml _ _).wrapped,
      (RawValue.transfersJson _ _).wrapped⟩

/-- Backslashes, delimiters and line breaks in a note, a title without a text, and a link of no kind
that is declared as such. -/
theorem transfers_singleText_borders :
    let note : AnyProperty :=
      { typeName := "NOTE", content := .text .note ⟨some "\\n,;\r\n\\\r"⟩ }
    let title : AnyProperty := { typeName := "TITLE", content := .text .title {} }
    let link : AnyProperty :=
      { typeName := "X-LINK", parameters := Parameters.empty.put "VALUE" "uri"
        content := .raw ⟨some "a\\,b\r\n;\\"⟩ }
    note.TransfersText title (.text .title ⟨some "\\n,;\n\\\n"⟩) ∧
      note.TransfersXml title (.text .title ⟨some "\\n,;\r\n\\\r"⟩) ∧
      title.TransfersJson note (.text .note ⟨some ""⟩) ∧
      link.TransfersText (raw "X-LINK") link.content ∧
      link.TransfersXml (raw "X-LINK") link.content ∧
      link.TransfersJson (raw "X-LINK") link.content := by
  intro note title link
  obtain ⟨htext, hxml, -⟩ := (transfers_singleText (w := note) (r := title)).1 _ _ _ _ rfl rfl
  obtain ⟨-, -, hmissing⟩ := (transfers_singleText (w := title) (r := note)).1 _ _ _ _ rfl rfl
  have hlink := (transfers_singleText (w := link) (r := raw "X-LINK")).2 _ _ rfl rfl
  have hnormal : Text.normalizeBreaks "\\n,;\r\n\\\r" = "\\n,;\n\\\n" := by decide
  change note.TransfersText title (.text .title ⟨some (Text.normalizeBreaks "\\n,;\r\n\\\r")⟩)
    at htext
  rw [hnormal] at htext
  exact ⟨htext, hxml, hmissing, hlink⟩

end AnyProperty

end VCardKit
