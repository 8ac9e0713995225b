/-
  The text form of a property value keeps its structure. Components stand between semicolons and
  their values between commas; splitting at the outer delimiter leaves the escapes alone, so that
  splitting at the inner one still tells a comma of the structure from one of a value.
-/
import VCardKit.Proofs.Text.Delimited
import VCardKit.TaggedValue.Basic

namespace VCardKit

namespace Shape

open Text

/-! ## One component -/

/-- What comes back from the text of a component. An empty list is written as nothing, which reads
as one empty value. -/
theorem split_componentText (values : List String) :
    split (componentText values) "," =
      if values = [] then [""] else values.map normalizeBreaks := by
  split
  · next h =>
    subst h
    decide +kernel
  · next h => exact split_joinEscaped (c := ',') rfl (by decide) (by decide) h

/-- Unescaped as a whole, a component shows no difference between its commas. -/
theorem unescape_componentText (values : List String) :
    unescape (componentText values) = ",".intercalate (values.map normalizeBreaks) :=
  unescape_joinEscaped (c := ',') rfl (by decide) (by decide) values

/-- A component shows no semicolon to the outer splitting: its values are escaped, and only commas
stand between them. -/
theorem sealed_componentText (values : List String) :
    Sealed (isDelimiter ";") (componentText values).toList :=
  sealed_join (.singleton (by decide) (by decide)) fun v _ =>
    sealed_escape (c := ';') rfl (by decide) v

/-! ## All components -/

theorem splitRaw_toText_structured {components : List (List String)} (h : components ≠ []) :
    splitRaw (structured components).toText ";" = components.map componentText :=
  splitRaw_join (c := ';') rfl (by decide) h fun values _ => sealed_componentText values

theorem split_toText_structured {components : List (List String)} (h : components ≠ []) :
    split (structured components).toText ";" =
      components.map fun values => ",".intercalate (values.map normalizeBreaks) := by
  rw [split, splitRaw_toText_structured h, List.map_map]
  exact List.map_congr_left fun values _ => unescape_componentText values

end Shape

namespace TaggedValue

/-- **The text form loses no structure.** Splitting at the semicolons, escapes left alone, and
each piece at the commas gives the components, up to the style of line breaks. A flat list comes
back from one splitting. -/
theorem split_toText (dataType : Option DataType) :
    (∀ components : List (List String), components ≠ [] →
      (Text.splitRaw (toText ⟨dataType, .structured components⟩) ";").map (Text.split · ",") =
        components.map fun values =>
          if values = [] then [""] else values.map Text.normalizeBreaks) ∧
    (∀ values : List String, values ≠ [] →
      Text.split (toText ⟨dataType, .multi values⟩) "," = values.map Text.normalizeBreaks) := by
  refine ⟨fun components h => ?_, fun values h => ?_⟩
  · rw [toText, Shape.splitRaw_toText_structured h, List.map_map]
    exact List.map_congr_left fun values _ => Shape.split_componentText values
  · exact (Shape.split_componentText values).trans (if_neg h)

/-- Backslashes, delimiters and line breaks at the borders of values and components. -/
theorem split_toText_borders :
    (Text.splitRaw (toText ⟨some .text, .structured [["a\\", ",;\r\n"], [], ["", "\r\\"]]⟩)
        ";").map (Text.split · ",") = [["a\\", ",;\n"], [""], ["", "\n\\"]] ∧
      Text.split (toText ⟨none, .multi ["\\", ",\r"]⟩) "," = ["\\", ",\n"] :=
  ⟨((split_toText (some .text)).1 _ (List.cons_ne_nil _ _)).trans (by decide +kernel),
    ((split_toText none).2 _ (List.cons_ne_nil _ _)).trans (by decide +kernel)⟩

end TaggedValue

end VCardKit
