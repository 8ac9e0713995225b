/-
  Written values keep to their place in a content line. Whatever texts a property holds, they are
  escaped before anything is put between them, so that a value neither ends the line, nor hides what
  follows it behind an open escape, nor shows a delimiter that its kind did not put there
  (`Text.KeepsLine`): one comma between any two categories, one semicolon in front of an identity.
-/
import VCardKit.Proofs.Property.Gender
import VCardKit.Proofs.Text.Bare

namespace VCardKit

namespace Property

variable {V : Type} [Content V]

/-- The property writes a text that keeps to its place, with so many delimiters of its own. -/
def WritesLine (p : Property V) (commas semicolons : Nat) : Prop :=
  ∀ (version : Version) (mode : Mode), ∃ text, p.writeText version mode = .done text p ∧
    Text.KeepsLine text commas semicolons

theorem WritesLine.wrapped {wrap : V → AnyContent} [AnyContent.Wrapper wrap] {p : Property V}
    {commas semicolons : Nat} (h : p.WritesLine commas semicolons) :
    (p.wrapped wrap).WritesLine commas semicolons := by
  intro version mode
  obtain ⟨text, hwrite, hline⟩ := h version mode
  refine ⟨text, ?_, hline⟩
  rw [writeText_wrapped, hwrite]
  rfl

end Property

/-! ## Kinds -/

theorem TextValue.writesLine (p : Property TextValue) : p.WritesLine 0 0 := by
  intro version mode
  exact ⟨Text.escape p.content.text, rfl, Text.keepsLine_escape p.content.text⟩

theorem Categories.writesLine (p : Property Categories) :
    p.WritesLine (p.content.values.length - 1) 0 := by
  intro version mode
  exact ⟨Text.joinEscaped "," p.content.values, rfl,
    Text.keepsLine_joinEscaped_comma p.content.values⟩

/-- A semicolon stands between the parts of a gender, so there is one if there are two parts. -/
theorem Gender.length_parts (g : Gender) :
    g.parts.length - 1 = if g.identity = none then 0 else 1 := by
  obtain ⟨sex, _ | identity⟩ := g <;> rfl

theorem Gender.writesLine (p : Property Gender) :
    p.WritesLine 0 (if p.content.identity = none then 0 else 1) := by
  intro version mode
  have hline := Text.keepsLine_joinEscaped_semicolon p.content.parts
  rw [← Gender.toText_eq_joinEscaped, Gender.length_parts] at hline
  exact ⟨p.content.toText, rfl, hline⟩

theorem Agent.writesLine {p : Property Agent} {url : String} (h : p.content.url = some url) :
    p.WritesLine 0 0 := by
  intro version mode
  have hwrite : Agent.writeText p version mode = .done (Text.escape url) p.content := by
    rw [Agent.writeText, h]
  exact ⟨Text.escape url, congrArg p.attempt hwrite, Text.keepsLine_escape url⟩

namespace AnyProperty

/-- **Written values inject no structure into a content line.** Texts and links show no delimiter,
categories one comma fewer than there are categories, and a gender a semicolon if it has an
identity; nothing that is written has a line break or leaves an escape open. -/
theorem writesLine_of_content {p : AnyProperty} :
    (∀ kind c, p.content = .text kind c → p.WritesLine 0 0) ∧
    (∀ c, p.content = .categories c → p.WritesLine (c.values.length - 1) 0) ∧
    (∀ kind g, p.content = .gender kind g →
      p.WritesLine 0 (if g.identity = none then 0 else 1)) ∧
    (∀ a url, p.content = .agent a → a.url = some url → p.WritesLine 0 0) := by
  refine ⟨fun kind c hp => ?_, fun c hp => ?_, fun kind g hp => ?_, fun a url hp hurl => ?_⟩
  · rw [Property.eq_wrapped hp]
    exact (TextValue.writesLine (p.withContent c)).wrapped
  · rw [Property.eq_wrapped hp]
    exact (Categories.writesLine (p.withContent c)).wrapped
  · rw [Property.eq_wrapped hp]
    exact (Gender.writesLine (p.withContent g)).wrapped
  · rw [Property.eq_wrapped hp]
    have hcontent : (p.withContent a).content.url = some url := hurl
    exact (Agent.writesLine hcontent).wrapped

/-- A backslash before a line break, delimiters and line breaks at the ends, and an empty value. -/
theorem writesLine_of_content_borders :
    let note : AnyProperty := { typeName := "NOTE", content := .text .note ⟨some "\\\r\n,;\\"⟩ }
    let categories : AnyProperty :=
      { typeName := "CATEGORIES", content := .categories ⟨["a,\\", "", ";\r"]⟩ }
    let gender : AnyProperty :=
      { typeName := "GENDER", content := .gender .gender ⟨none, some ";\\"⟩ }
    let agent : AnyProperty :=
      { typeName := "AGENT", content := .agent ⟨some "cid:;\n", none⟩ }
    note.WritesLine 0 0 ∧ categories.WritesLine 2 0 ∧ gender.WritesLine 0 1 ∧
      agent.WritesLine 0 0 := by
  intro note categories gender agent
  exact ⟨(writesLine_of_content (p := note)).1 _ _ rfl,
    (writesLine_of_content (p := categories)).2.1 _ rfl,
    (writesLine_of_content (p := gender)).2.2.1 _ _ rfl,
    (writesLine_of_content (p := agent)).2.2.2 _ _ rfl rfl⟩

end AnyProperty

end VCardKit
