/-
  A gender through the three formats. A missing sex is written as an empty one and read as missing
  again; a missing identity is not written at all, neither as a component nor as an element. So a
  gender comes back from every format if a reader could have given it (`IsCanonical`): its sex is
  trimmed and in upper case, and neither part is empty. Lines and tagged values are read by the same
  rule from the list of their parts (`ofParts`).
-/
import VCardKit.Proofs.Property.Transfer
import VCardKit.Proofs.TaggedValue.Slot
import VCardKit.Proofs.Text.Delimited
import VCardKit.Proofs.Xml.Element

namespace VCardKit

namespace Gender

/-! ## Parts -/

/-- The gender that is read from the sex and the identity; what follows them is passed over. -/
def ofParts (parts : List String) : Gender :=
  ⟨readSex (parts.headD ""), parts[1]?.bind nonEmpty⟩

/-- The parts that are written: the sex in any case, the identity if there is one. -/
def parts (g : Gender) : List String := g.sex.getD "" :: g.identity.toList

theorem ofText_eq_ofParts (value : String) : ofText value = ofParts (Text.split value ";") := rfl

/-- Of each component, the first value counts. -/
theorem ofTagged_eq_ofParts (value : TaggedValue) :
    ofTagged value = ofParts (value.asStructured.map (·.headD "")) := by
  rw [ofTagged, ofParts]
  match value.asStructured with
  | [] => rfl
  | [_] => rfl
  | _ :: _ :: _ => rfl

theorem ofParts_take (parts : List String) : ofParts (parts.take 2) = ofParts parts := by
  match parts with
  | [] => rfl
  | [_] => rfl
  | _ :: _ :: _ => rfl

theorem toText_eq_joinEscaped (g : Gender) : g.toText = Text.joinEscaped ";" g.parts := by
  obtain ⟨sex, _ | identity⟩ := g <;> rfl

theorem asStructured_toTagged (g : Gender) :
    g.toTagged.asStructured.map (·.headD "") = g.parts := by
  obtain ⟨sex, _ | identity⟩ := g <;> rfl

/-! ## Canonical genders -/

/-- A gender as readers give it, and without carriage returns, which lines do not keep. -/
structure IsCanonical (g : Gender) : Prop where
  sex : ∀ s ∈ g.sex, s ≠ "" ∧ Text.upper (Text.strip s) = s ∧ '\r' ∉ s.toList
  identity : ∀ s ∈ g.identity, s ≠ "" ∧ '\r' ∉ s.toList

namespace IsCanonical

variable {g : Gender} (h : g.IsCanonical)

include h

theorem readSex_sex : readSex (g.sex.getD "") = g.sex := by
  cases hsex : g.sex with
  | none => decide +kernel
  | some s =>
    obtain ⟨hne, hupper, -⟩ := h.sex s hsex
    rw [Option.getD_some, readSex, hupper]
    exact if_neg hne

theorem ofParts_parts : ofParts g.parts = g := by
  have hidentity : g.identity.bind nonEmpty = g.identity := by
    cases hidentity : g.identity with
    | none => rfl
    | some s => exact if_neg (h.identity s hidentity).1
  have hsecond : g.parts[1]? = g.identity := by
    obtain ⟨sex, _ | identity⟩ := g <;> rfl
  rw [ofParts, hsecond, hidentity]
  exact congrArg (Gender.mk · g.identity) h.readSex_sex

theorem not_mem_of_mem_parts {s : String} (hs : s ∈ g.parts) : '\r' ∉ s.toList := by
  rw [parts, List.mem_cons] at hs
  rcases hs with rfl | hs
  · cases hsex : g.sex with
    | none => decide
    | some s => exact (h.sex s hsex).2.2
  · exact (h.identity s (Option.mem_toList.mp hs)).2

end IsCanonical

theorem ofText_toText {g : Gender} (h : g.IsCanonical) : ofText g.toText = g := by
  have hsplit : Text.split g.toText ";" = g.parts.map Text.normalizeBreaks := by
    rw [toText_eq_joinEscaped]
    exact Text.split_joinEscaped (c := ';') rfl (by decide) (by decide) (List.cons_ne_nil _ _)
  rw [ofText_eq_ofParts, hsplit,
    Text.map_normalizeBreaks_of_not_mem fun _ => h.not_mem_of_mem_parts, h.ofParts_parts]

/-! ## Elements -/

/-- The element with the sex at its end, and behind it the identity if there is one. -/
def appendTo (g : Gender) (e : Xml.PropertyElement) : Xml.PropertyElement :=
  let e := e.append "sex" (some (g.sex.getD ""))
  match g.identity with
  | none => e
  | some identity => e.append "identity" (some identity)

theorem writeXml_eq (p : Property Gender) (e : Xml.PropertyElement) (mode : Mode) :
    Content.writeXml p e mode = .done () (p.content, (p.content.appendTo e).element) := by
  obtain ⟨typeName, group, parameters, ⟨sex, _ | identity⟩⟩ := p <;> rfl

/-- Nothing is found in an element without children but what was appended. -/
theorem first?_appendTo (g : Gender) (tag : String) (text : Option String) (version : Version) :
    (g.appendTo ⟨⟨tag, text, []⟩, version⟩).first? ["sex"] = some (g.sex.getD "") ∧
      (g.appendTo ⟨⟨tag, text, []⟩, version⟩).first? ["identity"] = g.identity := by
  have hnone : ∀ names, Xml.PropertyElement.first? ⟨⟨tag, text, []⟩, version⟩ names = none :=
    fun _ => rfl
  obtain ⟨sex, _ | identity⟩ := g <;>
    simp [appendTo, Xml.PropertyElement.first?_append, hnone]

theorem readXml_of_first? {g : Gender} (h : g.IsCanonical) {e : Xml.PropertyElement}
    (hsex : e.first? ["sex"] = some (g.sex.getD "")) (hidentity : e.first? ["identity"] = g.identity)
    (p : Property Gender) (mode : Mode) : readXml p e mode = .done [] g := by
  rw [readXml, hsex]
  show Attempt.done [] (Gender.mk (readSex (g.sex.getD "")) (e.first? ["identity"])) = _
  rw [h.readSex_sex, hidentity]

/-! ## The three formats -/

variable {w : Property Gender} (h : w.content.IsCanonical) (r : Property Gender)

include h

theorem transfersText : w.TransfersText r w.content := by
  intro parameters version version' mode mode'
  exact ⟨w.content.toText, rfl,
    Property.readText_of_done (congrArg (Attempt.done []) (ofText_toText h))⟩

theorem transfersXml : w.TransfersXml r w.content := by
  intro tag text parameters version version' mode mode'
  obtain ⟨hsex, hidentity⟩ := w.content.first?_appendTo tag text version
  let e := w.content.appendTo ⟨⟨tag, text, []⟩, version⟩
  have hwrite : w.writeXml (.element ⟨tag, text, []⟩) version mode =
      .done () (w, .element e.element) := by
    rw [Property.writeXml, writeXml_eq]
    rfl
  -- What is found in an element does not depend on the version.
  have hread : readXml { r with parameters } ⟨e.element, version'⟩ mode' = .done [] w.content :=
    readXml_of_first? h hsex hidentity _ mode'
  exact ⟨e.element, hwrite, Property.readXml_of_done hread⟩

theorem transfersJson : w.TransfersJson r w.content := by
  intro dataType parameters version version'
  have hviews : (TaggedValue.ofSlots dataType w.content.toTagged.toSlots).asStructured = _ :=
    Shape.asStructured_ofSlots_toSlots w.content.toTagged.shape
  have hread : ofTagged (.ofSlots dataType w.content.toTagged.toSlots) = w.content := by
    rw [ofTagged_eq_ofParts, hviews]
    exact (congrArg ofParts w.content.asStructured_toTagged).trans h.ofParts_parts
  exact ⟨w.content.toTagged, rfl, Property.readJson_of_done (congrArg (Attempt.done []) hread)⟩

end Gender

namespace AnyProperty

/-- **A canonical gender comes back from every format**, with a missing sex, a missing identity or
neither, into a property that held any other gender before. -/
theorem transfers_gender {w r : AnyProperty} {kind kind' : GenderKind} {g old : Gender}
    (h : g.IsCanonical) (hw : w.content = .gender kind g) (hr : r.content = .gender kind' old) :
    w.TransfersText r (.gender kind' g) ∧ w.TransfersXml r (.gender kind' g) ∧
      w.TransfersJson r (.gender kind' g) := by
  have hcontent : (w.withContent g).content.IsCanonical := h
  rw [Property.eq_wrapped hw, Property.eq_wrapped hr]
  exact ⟨(Gender.transfersText hcontent _).wrapped, (Gender.transfersXml hcontent _).wrapped,
    (Gender.transfersJson hcontent _).wrapped⟩

/-- Delimiters, backslashes and line feeds in both parts, and an identity without a sex. -/
theorem transfers_gender_borders :
    let full : Gender := ⟨some "M;\\", some ",\n;\\"⟩
    let half : Gender := ⟨none, some " ;"⟩
    let p : AnyProperty := { typeName := "GENDER", content := .gender .gender full }
    let q : AnyProperty := { typeName := "GENDER", content := .gender .otherGender half }
    p.TransfersText q (.gender .otherGender full) ∧ p.TransfersXml q (.gender .otherGender full) ∧
      p.TransfersJson q (.gender .otherGender full) ∧ q.TransfersText p (.gender .gender half) ∧
      q.TransfersXml p (.gender .gender half) ∧ q.TransfersJson p (.gender .gender half) := by
  intro full half p q
  have hfull : full.IsCanonical := by
    constructor
    · rintro s ⟨⟩
      exact ⟨by decide, by decide +kernel, by decide⟩
    · rintro s ⟨⟩
      exact ⟨by decide, by decide⟩
  have hhalf : half.IsCanonical := by
    constructor
    · rintro s ⟨⟩
    · rintro s ⟨⟩
      exact ⟨by decide, by decide⟩
  obtain ⟨htext, hxml, hjson⟩ := transfers_gender (w := p) (r := q) hfull rfl rfl
  obtain ⟨htext', hxml', hjson'⟩ := transfers_gender (w := q) (r := p) hhalf rfl rfl
  exact ⟨htext, hxml, hjson, htext', hxml', hjson'⟩

end AnyProperty

end VCardKit
