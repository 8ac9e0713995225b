/-
  The wire forms of texts. Writing forgets of a text how its lines are broken and nothing else, so
  two texts have one wire form exactly if they are equal once their line breaks are normalised
  (`unescape_escape_and_escape_eq_iff`). What is written is a row of units, each a plain character
  or an escape; on such rows, and on no others, writing undoes reading
  (`escape_unescape_eq_self_iff`). Every other text can be read too, but comes back in another form.
-/
import VCardKit.Proofs.Text.Escape

namespace VCardKit.Text

/-! ## Line breaks -/

/-- The wire form of a text that does not start with a carriage return. -/
theorem escapeChars_cons_of_ne {c : Char} (h : c ≠ '\r') (rest : List Char) :
    escapeChars (c :: rest) = escapeChar c ++ escapeChars rest :=
  escapeChars_cons fun _ hc _ => h hc

/-- A carriage return is written as a line feed is. -/
theorem escapeChar_normalized (c : Char) :
    escapeChar (if c = '\r' then '\n' else c) = escapeChar c := by
  split
  · next h =>
    subst h
    rfl
  · rfl

/-- Writing does not see how a line is broken. -/
theorem escapeChars_normalizeBreaksChars (cs : List Char) :
    escapeChars (normalizeBreaksChars cs) = escapeChars cs := by
  fun_induction normalizeBreaksChars cs with
  | case1 => rfl
  | case2 rest ih =>
    rw [escapeChars_cons_of_ne (by decide), ih, escapeChars]
    rfl
  | case3 c rest h ih =>
    have hfirst : (if c = '\r' then '\n' else c) ≠ '\r' := by
      split
      · decide
      · assumption
    rw [escapeChars_cons_of_ne hfirst, escapeChar_normalized, ih, escapeChars_cons h]

theorem escape_normalizeBreaks (s : String) : escape (normalizeBreaks s) = escape s := by
  rw [escape, normalizeBreaks, String.toList_ofList, escapeChars_normalizeBreaksChars, escape]

/-- **Reading undoes writing but for the style of line breaks.** A text that was written is read as
the text with its line breaks normalised, and no two texts are written alike but those that differ
in their line breaks alone. -/
theorem unescape_escape_and_escape_eq_iff :
    (∀ s, unescape (escape s) = normalizeBreaks s) ∧
      ∀ a b, escape a = escape b ↔ normalizeBreaks a = normalizeBreaks b := by
  refine ⟨unescape_escape, fun a b => ⟨fun h => ?_, fun h => ?_⟩⟩
  · calc normalizeBreaks a = unescape (escape a) := (unescape_escape a).symm
      _ = unescape (escape b) := by rw [h]
      _ = normalizeBreaks b := unescape_escape b
  · calc escape a = escape (normalizeBreaks a) := (escape_normalizeBreaks a).symm
      _ = escape (normalizeBreaks b) := by rw [h]
      _ = escape b := escape_normalizeBreaks b

/-! ## Units -/

/-- A unit of a wire form: a character that stands for itself, or an escape that is written. -/
inductive WireUnit : List Char → Prop
  | plain {c : Char} :
      c ≠ '\\' → c ≠ ',' → c ≠ ';' → c ≠ '\r' → c ≠ '\n' → WireUnit [c]
  | escaped {c : Char} : c = '\\' ∨ c = ',' ∨ c = ';' ∨ c = 'n' → WireUnit ['\\', c]

/-- A sequence of units. -/
inductive IsWireForm : List Char → Prop
  | nil : IsWireForm []
  | cons {u rest : List Char} : WireUnit u → IsWireForm rest → IsWireForm (u ++ rest)

theorem wireUnit_escapeChar (c : Char) : WireUnit (escapeChar c) := by
  rcases escapeChar_cases c with ⟨h, he⟩ | ⟨-, he⟩ | ⟨h, hr, hn, he⟩
  · rw [he]
    rcases needsBackslash_iff.mp h with hc | hc | hc
    · exact .escaped (.inl hc)
    · exact .escaped (.inr (.inl hc))
    · exact .escaped (.inr (.inr (.inl hc)))
  · rw [he]
    exact .escaped (.inr (.inr (.inr rfl)))
  · rw [he]
    have hc : ¬ (c = '\\' ∨ c = ',' ∨ c = ';') := fun hc =>
      absurd (needsBackslash_iff.mpr hc) (Bool.eq_false_iff.mp h)
    rw [not_or, not_or] at hc
    exact .plain hc.1 hc.2.1 hc.2.2 hr hn

/-- What is written is a sequence of units. -/
theorem isWireForm_escapeChars (cs : List Char) : IsWireForm (escapeChars cs) := by
  fun_induction escapeChars cs with
  | case1 => exact .nil
  | case2 rest ih => exact .cons (.escaped (by decide) : WireUnit ['\\', 'n']) ih
  | case3 c rest _ ih => exact .cons (wireUnit_escapeChar c) ih

/-- A unit is read as one character, which is written as that unit again. No such character is a
carriage return, so it does not join with what follows. -/
theorem WireUnit.exists_char {u : List Char} (h : WireUnit u) :
    ∃ c, c ≠ '\r' ∧ escapeChar c = u ∧
      ∀ rest, unescapeChars (u ++ rest) = c :: unescapeChars rest := by
  cases h with
  | @plain c hb hc hs hr hn =>
    refine ⟨c, hr, ?_, unescapeChars_plain hb⟩
    simp [escapeChar, needsBackslash, hb, hc, hs, hr, hn]
  | @escaped c hc =>
    refine ⟨unescapeChar c, ?_, ?_, unescapeChars_escaped c⟩
    · rcases hc with rfl | rfl | rfl | rfl <;> decide
    · rcases hc with rfl | rfl | rfl | rfl <;> rfl

/-- A sequence of units is what its reading is written as. -/
theorem IsWireForm.escapeChars_unescapeChars {cs : List Char} (h : IsWireForm cs) :
    escapeChars (unescapeChars cs) = cs := by
  induction h with
  | nil => rfl
  | cons hu _ ih =>
    obtain ⟨c, hr, hc, hread⟩ := hu.exists_char
    rw [hread, escapeChars_cons_of_ne hr, hc, ih]

theorem escape_unescape_of_isWireForm {w : String} (h : IsWireForm w.toList) :
    escape (unescape w) = w := by
  rw [escape, unescape, String.toList_ofList, h.escapeChars_unescapeChars, String.ofList_toList]

theorem isWireForm_escape (s : String) : IsWireForm (escape s).toList := by
  rw [escape, String.toList_ofList]
  exact isWireForm_escapeChars s.toList

/-- **The sequences of units are the texts that are written.** A text comes back unchanged from
reading and writing exactly if it is a sequence of units, and exactly these are wire forms of some
text. -/
theorem escape_unescape_eq_self_iff (w : String) :
    (escape (unescape w) = w ↔ IsWireForm w.toList) ∧
      (IsWireForm w.toList ↔ ∃ s, w = escape s) := by
  refine ⟨⟨fun h => ?_, escape_unescape_of_isWireForm⟩, fun h => ?_, fun ⟨s, hs⟩ => ?_⟩
  · rw [← h]
    exact isWireForm_escape (unescape w)
  · exact ⟨unescape w, (escape_unescape_of_isWireForm h).symm⟩
  · rw [hs]
    exact isWireForm_escape s

end VCardKit.Text
