/-
  Tagged values are read in two ways: by the reader of a kind, which looks at the shape, and through
  the text form, which the reader of lines takes apart. Where the kind is meant for the shape, both
  ways end with the same content, unless carriage returns make lines lose something. Categories from
  a line are trimmed besides.
-/
import VCardKit.Proofs.Property.Categories
import VCardKit.Proofs.Property.Gender

namespace VCardKit

/-! ## Texts -/

theorem TextValue.readsEither (r : Property TextValue) (dataType : Option DataType)
    {values : List String} (h : ∀ s ∈ values, '\r' ∉ s.toList) :
    r.ReadsEither ⟨dataType, .multi values⟩ ⟨some (",".intercalate values)⟩
      ⟨some (",".intercalate values)⟩ := by
  intro parameters version version' mode
  have htext : Text.unescape (Shape.componentText values) = ",".intercalate values := by
    rw [Shape.unescape_componentText, Text.map_normalizeBreaks_of_not_mem h]
  exact ⟨rfl, Property.readText_of_done
    (congrArg (fun text => Attempt.done [] (TextValue.mk (some text))) htext)⟩

/-! ## Categories -/

theorem Categories.readsEither (r : Property Categories) (dataType : Option DataType)
    {values : List String} (h : ∀ s ∈ values, '\r' ∉ s.toList) :
    r.ReadsEither ⟨dataType, .multi values⟩ ⟨values⟩ ⟨trimmed values⟩ := by
  intro parameters version version' mode
  have htext : ofText (Shape.componentText values) = _ := ofText_joinEscaped values
  rw [Text.map_normalizeBreaks_of_not_mem h] at htext
  exact ⟨rfl, Property.readText_of_done (congrArg (Attempt.done []) htext)⟩

/-! ## Genders -/

theorem intercalate_of_length_le_one {values : List String} (h : values.length ≤ 1)
    (separator : String) : separator.intercalate values = values.headD "" := by
  match values, h with
  | [], _ => rfl
  | [_], _ => rfl

/-- Where the components that count hold one value at most, no comma of theirs is lost. -/
theorem Gender.ofText_toText_structured {components : List (List String)}
    (hlength : ∀ values ∈ components.take 2, values.length ≤ 1)
    (h : ∀ s ∈ components.flatten, '\r' ∉ s.toList) :
    ofText (Shape.structured components).toText = ofParts (components.map (·.headD "")) := by
  by_cases hnil : components = []
  · subst hnil
    decide +kernel
  · rw [ofText_eq_ofParts, Shape.split_toText_structured hnil, ← ofParts_take, ← List.map_take,
      ← ofParts_take (components.map _), ← List.map_take]
    congr 1
    refine List.map_congr_left fun values hvalues => ?_
    have hcr : ∀ s ∈ values, '\r' ∉ s.toList := fun s hs =>
      h s (List.mem_flatten_of_mem (List.mem_of_mem_take hvalues) hs)
    rw [Text.map_normalizeBreaks_of_not_mem hcr,
      intercalate_of_length_le_one (hlength values hvalues)]

theorem Gender.readsEither (r : Property Gender) (dataType : Option DataType)
    {components : List (List String)} (hlength : ∀ values ∈ components.take 2, values.length ≤ 1)
    (h : ∀ s ∈ components.flatten, '\r' ∉ s.toList) :
    r.ReadsEither ⟨dataType, .structured components⟩ (ofParts (components.map (·.headD "")))
      (ofParts (components.map (·.headD ""))) := by
  intro parameters version version' mode
  have hjson : ofTagged ⟨dataType, .structured components⟩ =
      ofParts (components.map (·.headD "")) := ofTagged_eq_ofParts _
  have htext := ofText_toText_structured hlength h
  exact ⟨Property.readJson_of_done (congrArg (Attempt.done []) hjson),
    Property.readText_of_done (congrArg (Attempt.done []) htext)⟩

/-! ## Properties of any kind -/

namespace AnyProperty

/-- **The readers of tagged values agree with the readers of lines**, on values without carriage
returns: for texts and lists, for genders and components of which the first two hold one value at
most, and for categories and lists, up to the trimming of categories. -/
theorem readsEither_of_toText {p : AnyProperty} {v : TaggedValue}
    (h : ∀ s ∈ v.asMulti, '\r' ∉ s.toList) :
    (∀ kind c values, p.content = .text kind c → v.shape = .multi values →
      p.ReadsEither v (.text kind ⟨some (",".intercalate values)⟩)
        (.text kind ⟨some (",".intercalate values)⟩)) ∧
    (∀ kind g components, p.content = .gender kind g → v.shape = .structured components →
      (∀ values ∈ components.take 2, values.length ≤ 1) →
      p.ReadsEither v (.gender kind (.ofParts (components.map (·.headD ""))))
        (.gender kind (.ofParts (components.map (·.headD ""))))) ∧
    (∀ c values, p.content = .categories c → v.shape = .multi values →
      p.ReadsEither v (.categories ⟨values⟩) (.categories ⟨Categories.trimmed values⟩)) := by
  obtain ⟨dataType, shape⟩ := v
  refine ⟨fun kind c values hp hv => ?_, fun kind g components hp hv hlength => ?_,
    fun c values hp hv => ?_⟩
  · subst hv
    rw [Property.eq_wrapped hp]
    exact (TextValue.readsEither (p.withContent c) dataType h).wrapped
  · subst hv
    rw [Property.eq_wrapped hp]
    exact (Gender.readsEither (p.withContent g) dataType hlength h).wrapped
  · subst hv
    rw [Property.eq_wrapped hp]
    exact (Categories.readsEither (p.withContent c) dataType h).wrapped

/-- Delimiters, backslashes and empty values in a text, an empty component and a long one behind the
two that count for a gender, and blanks around and in place of categories. -/
theorem readsEither_of_toText_borders :
    let note : AnyProperty := { typeName := "NOTE", content := .text .note {} }
    let gender : AnyProperty := { typeName := "GENDER", content := .gender .gender ⟨none, some "x"⟩ }
    let categories : AnyProperty := { typeName := "CATEGORIES", content := .categories {} }
    note.ReadsEither ⟨none, .multi ["a,\\", "", ";\n"]⟩ (.text .note ⟨some "a,\\,,;\n"⟩)
        (.text .note ⟨some "a,\\,,;\n"⟩) ∧
      gender.ReadsEither ⟨none, .structured [[" m;"], [], ["y", "z"]]⟩
        (.gender .gender ⟨some "M;", none⟩) (.gender .gender ⟨some "M;", none⟩) ∧
      categories.ReadsEither ⟨none, .multi [" a,\\", "\t"]⟩ (.categories ⟨[" a,\\", "\t"]⟩)
        (.categories ⟨["a,\\"]⟩) := by
  intro note gender categories
  have htext := (readsEither_of_toText (p := note) (v := ⟨none, .multi ["a,\\", "", ";\n"]⟩)
    (by decide)).1 .note {} _ rfl rfl
  have hgender := (readsEither_of_toText (p := gender)
    (v := ⟨none, .structured [[" m;"], [], ["y", "z"]]⟩) (by decide)).2.1 .gender _ _ rfl rfl
    (by decide)
  have hcategories := (readsEither_of_toText (p := categories)
    (v := ⟨none, .multi [" a,\\", "\t"]⟩) (by decide)).2.2 {} _ rfl rfl
  have hjoined : ",".intercalate ["a,\\", "", ";\n"] = "a,\\,,;\n" := by decide +kernel
  have hparts : Gender.ofParts ([[" m;"], [], ["y", "z"]].map (·.headD "")) =
      ⟨some "M;", none⟩ := by decide +kernel
  have htrimmed : Categories.trimmed [" a,\\", "\t"] = ["a,\\"] := by decide +kernel
  rw [hjoined] at htext
  rw [hparts] at hgender
  rw [htrimmed] at hcategories
  exact ⟨htext, hgender, hcategories⟩

end AnyProperty

end VCardKit
