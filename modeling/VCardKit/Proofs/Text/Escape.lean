/-
  Reading undoes writing. A text that is escaped and unescaped comes back with its line breaks
  normalised and with nothing else changed, whatever backslashes, delimiters and line breaks it
  holds.
-/
import VCardKit.Text.Escape

namespace VCardKit.Text

/-! ## One character -/

theorem needsBackslash_iff {c : Char} : needsBackslash c = true ↔ c = '\\' ∨ c = ',' ∨ c = ';' := by
  simp [needsBackslash, or_assoc]

theorem unescapeChar_of_needsBackslash {c : Char} (h : needsBackslash c = true) :
    unescapeChar c = c := by
  rcases needsBackslash_iff.mp h with rfl | rfl | rfl <;> rfl

theorem unescapeChars_escaped (c : Char) (rest : List Char) :
    unescapeChars ('\\' :: c :: rest) = unescapeChar c :: unescapeChars rest := by
  rw [unescapeChars]

theorem unescapeChars_plain {c : Char} (h : c ≠ '\\') (rest : List Char) :
    unescapeChars (c :: rest) = c :: unescapeChars rest := by
  rw [unescapeChars]
  · rintro rfl _
    exact h rfl
  · rintro _ _ rfl _
    exact h rfl

/-- The three wire forms of a character: behind a backslash, as a line break, as itself. -/
theorem escapeChar_cases (c : Char) :
    (needsBackslash c = true ∧ escapeChar c = ['\\', c]) ∨
      ((c = '\r' ∨ c = '\n') ∧ escapeChar c = ['\\', 'n']) ∨
      (needsBackslash c = false ∧ c ≠ '\r' ∧ c ≠ '\n' ∧ escapeChar c = [c]) := by
  unfold escapeChar
  by_cases h : needsBackslash c = true
  · exact Or.inl ⟨h, if_pos h⟩
  · rw [if_neg h]
    by_cases hb : c = '\r' ∨ c = '\n'
    · exact Or.inr (Or.inl ⟨hb, by simp [hb]⟩)
    · rw [not_or] at hb
      exact Or.inr (Or.inr ⟨by simpa using h, hb.1, hb.2, by simp [hb]⟩)

/-- Behind the wire form of a character, reading goes on as if it stood alone. -/
theorem unescapeChars_escapeChar_append (c : Char) (rest : List Char) :
    unescapeChars (escapeChar c ++ rest) =
      (if c = '\r' then '\n' else c) :: unescapeChars rest := by
  rcases escapeChar_cases c with ⟨h, he⟩ | ⟨hb, he⟩ | ⟨h, hr, -, he⟩
  · have hr : c ≠ '\r' := by rintro rfl; exact absurd h (by decide)
    rw [he, if_neg hr]
    simp only [List.cons_append, List.nil_append]
    rw [unescapeChars_escaped, unescapeChar_of_needsBackslash h]
  · rw [he]
    simp only [List.cons_append, List.nil_append]
    rw [unescapeChars_escaped]
    rcases hb with rfl | rfl <;> rfl
  · have hc : c ≠ '\\' := by rintro rfl; exact absurd h (by decide)
    rw [he, List.singleton_append, unescapeChars_plain hc, if_neg hr]

/-! ## Texts -/

/-- The wire form of a text whose first character is no part of a CR LF. -/
theorem escapeChars_cons {c : Char} {rest : List Char}
    (h : ∀ tail, c = '\r' → rest = '\n' :: tail → False) :
    escapeChars (c :: rest) = escapeChar c ++ escapeChars rest := by
  rw [escapeChars]
  exact h

theorem unescapeChars_escapeChars (cs : List Char) :
    unescapeChars (escapeChars cs) = normalizeBreaksChars cs := by
  fun_induction normalizeBreaksChars cs with
  | case1 => rfl
  | case2 rest ih => rw [escapeChars, unescapeChars_escaped, ih]; rfl
  | case3 c rest h ih => rw [escapeChars_cons h, unescapeChars_escapeChar_append, ih]

/-- Reading what was written gives the text with its line breaks normalised. -/
theorem unescape_escape (s : String) : unescape (escape s) = normalizeBreaks s := by
  rw [unescape, escape, String.toList_ofList, unescapeChars_escapeChars, normalizeBreaks]

/-! ## Texts without carriage returns -/

theorem normalizeBreaksChars_of_not_mem {cs : List Char} (h : '\r' ∉ cs) :
    normalizeBreaksChars cs = cs := by
  fun_induction normalizeBreaksChars cs with
  | case1 => rfl
  | case2 rest ih => exact absurd List.mem_cons_self h
  | case3 c rest _ ih =>
    rw [List.mem_cons, not_or] at h
    rw [if_neg (Ne.symm h.1), ih h.2]

/-- Where every line break is a line feed already, nothing is normalised. -/
theorem normalizeBreaks_of_not_mem {s : String} (h : '\r' ∉ s.toList) : normalizeBreaks s = s := by
  rw [normalizeBreaks, normalizeBreaksChars_of_not_mem h, String.ofList_toList]

theorem map_normalizeBreaks_of_not_mem {values : List String}
    (h : ∀ s ∈ values, '\r' ∉ s.toList) : values.map normalizeBreaks = values := by
  rw [List.map_congr_left fun s hs => normalizeBreaks_of_not_mem (h s hs)]
  exact List.map_id values

end VCardKit.Text
