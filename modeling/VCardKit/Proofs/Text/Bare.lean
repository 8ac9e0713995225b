/-
  What stands outside escapes. A backslash escapes the character behind it; the others are bare, and
  only they can delimit. A backslash is bare where it has nothing behind it to escape, which is so
  exactly if the text ends in an odd number of backslashes. Escaped texts have neither bare
  delimiters nor line breaks, so the bare delimiters of a joined text are those of the joining.
-/
import VCardKit.Proofs.Text.Delimited

namespace VCardKit.Text

/-- The characters outside escapes. A backslash at the very end has nothing to escape and stays. -/
def bare : List Char → List Char
  | [] => []
  | ['\\'] => ['\\']
  | '\\' :: _ :: rest => bare rest
  | c :: rest => c :: bare rest

/-- The number of backslashes at the end. -/
def trailingBackslashes (cs : List Char) : Nat := (cs.reverse.takeWhile (· = '\\')).length

theorem bare_escaped (c : Char) (rest : List Char) : bare ('\\' :: c :: rest) = bare rest := by
  rw [bare]

theorem bare_plain {c : Char} (h : c ≠ '\\') (rest : List Char) :
    bare (c :: rest) = c :: bare rest := by
  rw [bare]
  · rintro rfl _
    exact h rfl
  · rintro _ _ rfl _
    exact h rfl

/-- Induction along a text: an escape is one step, and a backslash at the very end is a case of its
own. -/
@[elab_as_elim]
theorem escapes_induction {motive : List Char → Prop} (cs : List Char) (nil : motive [])
    (dangling : motive ['\\']) (escaped : ∀ c rest, motive rest → motive ('\\' :: c :: rest))
    (plain : ∀ c rest, c ≠ '\\' → motive rest → motive (c :: rest)) : motive cs := by
  fun_induction bare cs with
  | case1 => exact nil
  | case2 => exact dangling
  | case3 c rest ih => exact escaped c rest ih
  | case4 c rest hlast hescape ih =>
    refine plain c rest ?_ ih
    rintro rfl
    cases rest with
    | nil => exact hlast rfl rfl
    | cons next rest => exact hescape next rest rfl rfl

/-! ## The end of a text -/

theorem trailingBackslashes_le_length (cs : List Char) : trailingBackslashes cs ≤ cs.length := by
  have h : (cs.reverse.takeWhile (· = '\\')).length ≤ cs.reverse.length :=
    (List.takeWhile_sublist _).length_le
  rwa [List.length_reverse] at h

/-- A character in front counts if it is a backslash and nothing else stands behind it. -/
theorem trailingBackslashes_cons (c : Char) (rest : List Char) :
    trailingBackslashes (c :: rest) =
      if trailingBackslashes rest = rest.length ∧ c = '\\' then rest.length + 1
      else trailingBackslashes rest := by
  have hlength : (rest.reverse.takeWhile (· = '\\')).length = trailingBackslashes rest := rfl
  rw [trailingBackslashes, List.reverse_cons, List.takeWhile_append, List.length_reverse, hlength]
  by_cases hall : trailingBackslashes rest = rest.length
  · by_cases hc : c = '\\'
    · rw [if_pos hall, if_pos ⟨hall, hc⟩]
      simp [hc]
    · rw [if_pos hall, if_neg fun h => hc h.2]
      simp [hc, hall]
  · rw [if_neg hall, if_neg fun h => hall h.1, hlength]

/-- A backslash is bare if it ends the text without being escaped itself. -/
theorem backslash_mem_bare_iff (cs : List Char) :
    '\\' ∈ bare cs ↔ trailingBackslashes cs % 2 = 1 := by
  induction cs using escapes_induction with
  | nil => decide
  | dangling => decide
  | escaped c rest ih =>
    -- Two backslashes more, or none: the parity stays.
    have hle := trailingBackslashes_le_length rest
    have hinner := trailingBackslashes_cons c rest
    have houter := trailingBackslashes_cons '\\' (c :: rest)
    rw [List.length_cons] at houter
    simp only [and_true] at houter
    rw [bare_escaped, ih]
    split at hinner <;> split at houter <;> omega
  | plain c rest hc ih =>
    rw [bare_plain hc, trailingBackslashes_cons, if_neg fun h => hc h.2, List.mem_cons, ih]
    simp only [Ne.symm hc, false_or]

/-! ## Joined texts -/

theorem bare_append {u : List Char} (h : '\\' ∉ bare u) (v : List Char) :
    bare (u ++ v) = bare u ++ bare v := by
  induction u using escapes_induction with
  | nil => rfl
  | dangling => exact absurd List.mem_cons_self h
  | escaped c rest ih =>
    rw [bare_escaped] at h
    rw [List.cons_append, List.cons_append, bare_escaped, bare_escaped, ih h]
  | plain c rest hc ih =>
    rw [bare_plain hc, List.mem_cons, not_or] at h
    rw [List.cons_append, bare_plain hc, bare_plain hc, ih h.2, List.cons_append]

theorem bare_intercalate {c : Char} (hc : c ≠ '\\') {parts : List (List Char)}
    (h : ∀ part ∈ parts, '\\' ∉ bare part) :
    bare ([c].intercalate parts) = [c].intercalate (parts.map bare) :=
  apply_intercalate rfl (bare_plain hc) (fun _ hu => bare_append hu) h

theorem mem_of_mem_intercalate {sep : List Char} {parts : List (List Char)} {x : Char}
    (h : x ∈ sep.intercalate parts) : x ∈ sep ∨ ∃ part ∈ parts, x ∈ part := by
  induction parts with
  | nil => cases h
  | cons part rest ih =>
    cases rest with
    | nil =>
      rw [List.intercalate_singleton] at h
      exact .inr ⟨part, List.mem_cons_self, h⟩
    | cons next rest =>
      rw [List.intercalate_cons_cons, List.mem_append, List.mem_append] at h
      rcases h with (h | h) | h
      · exact .inr ⟨part, List.mem_cons_self, h⟩
      · exact .inl h
      · rcases ih h with h | ⟨p, hp, h⟩
        · exact .inl h
        · exact .inr ⟨p, List.mem_cons_of_mem _ hp, h⟩

/-- Where no part has the delimiter, a joined text has it once between any two parts. -/
theorem count_intercalate {c : Char} {parts : List (List Char)} (h : ∀ part ∈ parts, c ∉ part) :
    ([c].intercalate parts).count c = parts.length - 1 := by
  induction parts with
  | nil => rfl
  | cons part rest ih =>
    have hp : part.count c = 0 := List.count_eq_zero.2 (h part List.mem_cons_self)
    cases rest with
    | nil =>
      rw [List.intercalate_singleton, hp]
      rfl
    | cons next rest =>
      have hr := ih fun p hp => h p (List.mem_cons_of_mem _ hp)
      rw [List.intercalate_cons_cons, List.count_append, List.count_append, hp, hr,
        List.count_singleton_self]
      simp only [List.length_cons]
      omega

/-! ## Escaped texts -/

theorem ne_break_of_mem_escapeChar {c x : Char} (h : x ∈ escapeChar c) :
    x ≠ '\r' ∧ x ≠ '\n' := by
  rcases escapeChar_cases c with ⟨hneeds, he⟩ | ⟨-, he⟩ | ⟨-, hr, hn, he⟩
  · rw [he, List.mem_cons, List.mem_singleton] at h
    rcases h with rfl | rfl
    · decide
    · rcases needsBackslash_iff.1 hneeds with rfl | rfl | rfl <;> decide
  · rw [he, List.mem_cons, List.mem_singleton] at h
    rcases h with rfl | rfl <;> decide
  · rw [he, List.mem_singleton] at h
    rw [h]
    exact ⟨hr, hn⟩

theorem ne_break_of_mem_escapeChars {cs : List Char} {x : Char} (h : x ∈ escapeChars cs) :
    x ≠ '\r' ∧ x ≠ '\n' := by
  fun_induction escapeChars cs with
  | case1 => cases h
  | case2 rest ih =>
    rcases List.mem_cons.1 h with rfl | h
    · decide
    · rcases List.mem_cons.1 h with rfl | h
      · decide
      · exact ih h
  | case3 c rest _ ih =>
    rcases List.mem_append.1 h with h | h
    · exact ne_break_of_mem_escapeChar h
    · exact ih h

/-- Nothing that is bare in a sealed text is a backslash or a delimiter. -/
theorem of_mem_bare_of_sealed {d : Char → Bool} {cs : List Char} (h : Sealed d cs) :
    ∀ x ∈ bare cs, x ≠ '\\' ∧ d x = false := by
  induction h with
  | nil => simp [bare]
  | escaped c _ ih => rwa [bare_escaped]
  | plain hc hd _ ih =>
    rw [bare_plain hc]
    intro x hx
    rcases List.mem_cons.1 hx with rfl | hx
    · exact ⟨hc, hd⟩
    · exact ih x hx

theorem of_mem_bare_escapeChars {cs : List Char} {x : Char} (h : x ∈ bare (escapeChars cs)) :
    x ≠ '\\' ∧ x ≠ ',' ∧ x ≠ ';' := by
  have hsealed : Sealed (fun c => c = ',' || c = ';') (escapeChars cs) := by
    refine sealed_escapeChars (fun c hc => ?_) cs
    rw [Bool.or_eq_true, decide_eq_true_eq, decide_eq_true_eq] at hc
    rcases hc with rfl | rfl <;> decide
  obtain ⟨hbackslash, hdelimiter⟩ := of_mem_bare_of_sealed hsealed x h
  rw [Bool.or_eq_false_iff, decide_eq_false_iff_not, decide_eq_false_iff_not] at hdelimiter
  exact ⟨hbackslash, hdelimiter⟩

/-! ## Values of a content line -/

/-- A text that keeps to its place in a content line: it has no line break, no escape is open at its
end, and its bare commas and semicolons are as many as given. -/
structure KeepsLine (s : String) (commas semicolons : Nat) : Prop where
  no_breaks : '\r' ∉ s.toList ∧ '\n' ∉ s.toList
  closed : trailingBackslashes s.toList % 2 = 0
  count_commas : (bare s.toList).count ',' = commas
  count_semicolons : (bare s.toList).count ';' = semicolons

section

variable {delimiter : String} {c : Char} (hdel : delimiter.toList = [c]) (hc : c = ',' ∨ c = ';')
  (values : List String)

include hdel

theorem toList_joinEscaped :
    (joinEscaped delimiter values).toList =
      [c].intercalate (values.map fun v => escapeChars v.toList) := by
  rw [joinEscaped, join, String.toList_intercalate, hdel, List.map_map]
  congr 1
  refine List.map_congr_left fun v _ => ?_
  show (escape v).toList = _
  rw [escape, String.toList_ofList]

include hc

theorem bare_joinEscaped :
    bare (joinEscaped delimiter values).toList =
      [c].intercalate (values.map fun v => bare (escapeChars v.toList)) := by
  have hbackslash : c ≠ '\\' := by rcases hc with rfl | rfl <;> decide
  rw [toList_joinEscaped hdel, bare_intercalate hbackslash, List.map_map]
  · rfl
  · intro part hpart
    obtain ⟨v, -, rfl⟩ := List.mem_map.1 hpart
    exact fun h => (of_mem_bare_escapeChars h).1 rfl

theorem of_mem_bare_joinEscaped {x : Char} (h : x ∈ bare (joinEscaped delimiter values).toList) :
    x = c ∨ x ≠ '\\' ∧ x ≠ ',' ∧ x ≠ ';' := by
  rw [bare_joinEscaped hdel hc] at h
  rcases mem_of_mem_intercalate h with h | ⟨part, hpart, h⟩
  · exact .inl (List.mem_singleton.1 h)
  · obtain ⟨v, -, rfl⟩ := List.mem_map.1 hpart
    exact .inr (of_mem_bare_escapeChars h)

/-- The bare delimiters of escaped values are those of their joining. -/
theorem count_bare_joinEscaped {e : Char} (he : e = ',' ∨ e = ';') :
    (bare (joinEscaped delimiter values).toList).count e =
      if e = c then values.length - 1 else 0 := by
  split
  · next hec =>
    subst hec
    rw [bare_joinEscaped hdel hc, count_intercalate, List.length_map]
    intro part hpart hmem
    obtain ⟨v, -, rfl⟩ := List.mem_map.1 hpart
    obtain ⟨-, hcomma, hsemicolon⟩ := of_mem_bare_escapeChars hmem
    exact he.elim hcomma hsemicolon
  · next hec =>
    rw [List.count_eq_zero]
    intro hmem
    rcases of_mem_bare_joinEscaped hdel hc values hmem with h | ⟨-, hcomma, hsemicolon⟩
    · exact hec h
    · exact he.elim hcomma hsemicolon

theorem keepsLine_joinEscaped :
    KeepsLine (joinEscaped delimiter values) (if ',' = c then values.length - 1 else 0)
      (if ';' = c then values.length - 1 else 0) where
  no_breaks := by
    have hbreak : ∀ x ∈ (joinEscaped delimiter values).toList, x ≠ '\r' ∧ x ≠ '\n' := by
      intro x hx
      rw [toList_joinEscaped hdel] at hx
      rcases mem_of_mem_intercalate hx with hx | ⟨part, hpart, hx⟩
      · rw [List.mem_singleton.1 hx]
        rcases hc with rfl | rfl <;> decide
      · obtain ⟨v, -, rfl⟩ := List.mem_map.1 hpart
        exact ne_break_of_mem_escapeChars hx
    exact ⟨fun h => (hbreak _ h).1 rfl, fun h => (hbreak _ h).2 rfl⟩
  closed := by
    have hnot : '\\' ∉ bare (joinEscaped delimiter values).toList := by
      intro h
      rcases of_mem_bare_joinEscaped hdel hc values h with h | ⟨h, -⟩
      · rcases hc with rfl | rfl <;> cases h
      · exact h rfl
    rw [backslash_mem_bare_iff] at hnot
    omega
  count_commas := count_bare_joinEscaped hdel hc values (.inl rfl)
  count_semicolons := count_bare_joinEscaped hdel hc values (.inr rfl)

end

theorem keepsLine_joinEscaped_comma (values : List String) :
    KeepsLine (joinEscaped "," values) (values.length - 1) 0 :=
  keepsLine_joinEscaped rfl (.inl rfl) values

theorem keepsLine_joinEscaped_semicolon (values : List String) :
    KeepsLine (joinEscaped ";" values) 0 (values.length - 1) :=
  keepsLine_joinEscaped rfl (.inr rfl) values

theorem keepsLine_escape (s : String) : KeepsLine (escape s) 0 0 :=
  keepsLine_joinEscaped_comma [s]

end VCardKit.Text
