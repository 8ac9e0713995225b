/-
  Writing a property and reading it back. Each format has a relation between the property that is
  written, the one that reads and what the reader holds in the end; it includes that nothing fails
  on the way, that writing changes nothing, and that reading changes no more than the parameters and
  the content. The versions and the modes of writing and reading need not agree. What the properties
  of one content type transfer, those of any kind do.
-/
import VCardKit.Proofs.Property.AnyContent
import VCardKit.TaggedValue.Slot

namespace VCardKit

namespace Property

variable {V W : Type} [Content V] [Content W]

/-! ## Readers that succeed -/

section

variable {r : Property W} {parameters : Parameters} {content : W} {version : Version} {mode : Mode}

theorem readText_of_done {value : String}
    (h : Content.readText { r with parameters } value version mode = .done [] content) :
    r.readText parameters value version mode = .done [] { r with parameters, content } :=
  congrArg (attempt { r with parameters }) h

theorem readXml_of_done {e : Xml.Element}
    (h : Content.readXml { r with parameters } ⟨e, version⟩ mode = .done [] content) :
    r.readXml parameters (.element e) version mode = .done [] { r with parameters, content } :=
  congrArg (attempt { r with parameters }) h

theorem readJson_of_done {value : TaggedValue}
    (h : Content.readJson { r with parameters } value version = .done [] content) :
    r.readJson parameters value version = .done [] { r with parameters, content } :=
  congrArg (attempt { r with parameters }) h

end

/-! ## Formats -/

/-- `r` reads the text that `w` writes, and holds the content. -/
def TransfersText (w : Property V) (r : Property W) (content : W) : Prop :=
  ∀ (parameters : Parameters) (version version' : Version) (mode mode' : Mode),
    ∃ text, w.writeText version mode = .done text w ∧
      r.readText parameters text version' mode' = .done [] { r with parameters, content }

/-- `r` reads the element that `w` writes into, which had no children before, and holds the
content. -/
def TransfersXml (w : Property V) (r : Property W) (content : W) : Prop :=
  ∀ (tag : String) (text : Option String) (parameters : Parameters) (version version' : Version)
    (mode mode' : Mode),
    ∃ e, w.writeXml (.element ⟨tag, text, []⟩) version mode = .done () (w, .element e) ∧
      r.readXml parameters (.element e) version' mode' = .done [] { r with parameters, content }

/-- `r` finds the element malformed that `w` writes into, which had no children before, and keeps
its content. -/
def RefusesXml (w : Property V) (r : Property W) : Prop :=
  ∀ (tag : String) (text : Option String) (parameters : Parameters) (version version' : Version)
    (mode mode' : Mode),
    ∃ e, w.writeXml (.element ⟨tag, text, []⟩) version mode = .done () (w, .element e) ∧
      ∃ reason, r.readXml parameters (.element e) version' mode' =
        .failed (.cannotParse reason) { r with parameters }

/-- `r` reads the tagged value that `w` writes, after it went through its slots, and holds the
content. -/
def TransfersJson (w : Property V) (r : Property W) (content : W) : Prop :=
  ∀ (dataType : Option DataType) (parameters : Parameters) (version version' : Version),
    ∃ value, w.writeJson version = .done value w ∧
      r.readJson parameters (.ofSlots dataType value.toSlots) version' =
        .done [] { r with parameters, content }

/-- Reading a tagged value leaves `native`; reading its text form leaves `fromText`. -/
def ReadsEither (r : Property V) (value : TaggedValue) (native fromText : V) : Prop :=
  ∀ (parameters : Parameters) (version version' : Version) (mode : Mode),
    r.readJson parameters value version = .done [] { r with parameters, content := native } ∧
      r.readText parameters value.toText version' mode =
        .done [] { r with parameters, content := fromText }

/-! ## Properties of any kind -/

variable {wrapW : V → AnyContent} {wrapR : W → AnyContent} [AnyContent.Wrapper wrapW]
  [AnyContent.Wrapper wrapR] {w : Property V} {r : Property W} {content : W}

theorem TransfersText.wrapped (h : w.TransfersText r content) :
    (w.wrapped wrapW).TransfersText (r.wrapped wrapR) (wrapR content) := by
  intro parameters version version' mode mode'
  obtain ⟨text, hwrite, hread⟩ := h parameters version version' mode mode'
  refine ⟨text, ?_, ?_⟩
  · rw [writeText_wrapped, hwrite]
    rfl
  · rw [readText_wrapped, hread]
    rfl

theorem TransfersXml.wrapped (h : w.TransfersXml r content) :
    (w.wrapped wrapW).TransfersXml (r.wrapped wrapR) (wrapR content) := by
  intro tag text parameters version version' mode mode'
  obtain ⟨e, hwrite, hread⟩ := h tag text parameters version version' mode mode'
  refine ⟨e, ?_, ?_⟩
  · rw [writeXml_wrapped, hwrite]
    rfl
  · rw [readXml_wrapped, hread]
    rfl

theorem RefusesXml.wrapped (h : w.RefusesXml r) :
    (w.wrapped wrapW).RefusesXml (r.wrapped wrapR) := by
  intro tag text parameters version version' mode mode'
  obtain ⟨e, hwrite, reason, hread⟩ := h tag text parameters version version' mode mode'
  refine ⟨e, ?_, reason, ?_⟩
  · rw [writeXml_wrapped, hwrite]
    rfl
  · rw [readXml_wrapped, hread]
    rfl

theorem TransfersJson.wrapped (h : w.TransfersJson r content) :
    (w.wrapped wrapW).TransfersJson (r.wrapped wrapR) (wrapR content) := by
  intro dataType parameters version version'
  obtain ⟨value, hwrite, hread⟩ := h dataType parameters version version'
  refine ⟨value, ?_, ?_⟩
  · rw [writeJson_wrapped, hwrite]
    rfl
  · rw [readJson_wrapped, hread]
    rfl

theorem ReadsEither.wrapped {value : TaggedValue} {native fromText : W}
    (h : r.ReadsEither value native fromText) :
    (r.wrapped wrapR).ReadsEither value (wrapR native) (wrapR fromText) := by
  intro parameters version version' mode
  obtain ⟨hjson, htext⟩ := h parameters version version' mode
  rw [readJson_wrapped, readText_wrapped, hjson, htext]
  exact ⟨rfl, rfl⟩

end Property

end VCardKit
