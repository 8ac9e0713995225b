/-
  Splitting undoes joining. The parts that splitting gives back are the ones in which no delimiter
  stands outside an escape and no escape is left open at the end (`Sealed`). Escaped texts are
  sealed against every delimiter that escaping treats, and so are lists of them against any
  delimiter but their own; that is why two levels of joining can be taken apart again. Unescaping
  before splitting keeps all characters and loses the difference between the delimiters.
-/
import VCardKit.Proofs.Text.Escape
import VCardKit.Text.Delimited
import Mathlib.Data.List.Basic

namespace VCardKit.Text

variable {d : Char → Bool}

/-! ## Sealed texts -/

/-- A text that a splitting passes over as a whole: no delimiter stands outside an escape, and no
escape is open at the end. -/
inductive Sealed (d : Char → Bool) : List Char → Prop
  | nil : Sealed d []
  | escaped (c : Char) {rest : List Char} : Sealed d rest → Sealed d ('\\' :: c :: rest)
  | plain {c : Char} {rest : List Char} :
      c ≠ '\\' → d c = false → Sealed d rest → Sealed d (c :: rest)

theorem Sealed.append {u v : List Char} (hu : Sealed d u) (hv : Sealed d v) :
    Sealed d (u ++ v) := by
  induction hu with
  | nil => exact hv
  | escaped c _ ih => exact .escaped c ih
  | plain hc hd _ ih => exact .plain hc hd ih

theorem Sealed.singleton {c : Char} (hc : c ≠ '\\') (hd : d c = false) : Sealed d [c] :=
  .plain hc hd .nil

theorem Sealed.intercalate {sep : List Char} (hsep : Sealed d sep) {parts : List (List Char)}
    (h : ∀ part ∈ parts, Sealed d part) : Sealed d (sep.intercalate parts) := by
  induction parts with
  | nil => exact .nil
  | cons part rest ih =>
    have hp : Sealed d part := h part List.mem_cons_self
    have hr := ih fun p hp => h p (List.mem_cons_of_mem _ hp)
    cases rest with
    | nil => rwa [List.intercalate_singleton]
    | cons next rest =>
      rw [List.intercalate_cons_cons]
      exact (hp.append hsep).append hr

/-- The wire form of a character hides it from every delimiter that is written otherwise than as
itself. -/
theorem sealed_escapeChar (hd : ∀ c, d c = true → escapeChar c ≠ [c]) (c : Char) :
    Sealed d (escapeChar c) := by
  rcases escapeChar_cases c with ⟨-, he⟩ | ⟨-, he⟩ | ⟨h, -, -, he⟩
  · rw [he]
    exact .escaped c .nil
  · rw [he]
    exact .escaped 'n' .nil
  · have hc : c ≠ '\\' := by rintro rfl; exact absurd h (by decide)
    have hn : d c = false := by
      rw [Bool.eq_false_iff]
      exact fun hdc => hd c hdc he
    rw [he]
    exact .singleton hc hn

theorem sealed_escapeChars (hd : ∀ c, d c = true → escapeChar c ≠ [c]) (cs : List Char) :
    Sealed d (escapeChars cs) := by
  fun_induction escapeChars cs with
  | case1 => exact .nil
  | case2 rest ih => exact .escaped 'n' ih
  | case3 c rest _ ih => exact (sealed_escapeChar hd c).append ih

/-! ## Splitting -/

theorem consFirst_eq_modifyHead {ps : List (List Char)} (h : ps ≠ []) (c : Char) :
    consFirst c ps = ps.modifyHead (c :: ·) := by
  cases ps with
  | nil => exact absurd rfl h
  | cons p ps => rfl

theorem consFirst_ne_nil (c : Char) (ps : List (List Char)) : consFirst c ps ≠ [] := by
  cases ps <;> simp [consFirst]

theorem splitChars_ne_nil (d : Char → Bool) (cs : List Char) : splitChars d cs ≠ [] := by
  fun_cases splitChars d cs with
  | case1 => simp
  | case2 => simp
  | case3 c rest => exact consFirst_ne_nil _ _
  | case4 c rest => simp
  | case5 c rest => exact consFirst_ne_nil _ _

theorem splitChars_escaped (c : Char) (rest : List Char) :
    splitChars d ('\\' :: c :: rest) =
      (splitChars d rest).modifyHead (fun p => '\\' :: c :: p) := by
  rw [splitChars, consFirst_eq_modifyHead (consFirst_ne_nil _ _),
    consFirst_eq_modifyHead (splitChars_ne_nil d rest), List.modifyHead_modifyHead]
  rfl

theorem splitChars_cons {c : Char} (hc : c ≠ '\\') (rest : List Char) :
    splitChars d (c :: rest) =
      if d c then [] :: splitChars d rest else (splitChars d rest).modifyHead (c :: ·) := by
  rw [splitChars, consFirst_eq_modifyHead (splitChars_ne_nil d rest)]
  · rintro rfl _
    exact hc rfl
  · rintro _ _ rfl _
    exact hc rfl

/-- A sealed text in front goes to the first part. -/
theorem splitChars_append {u : List Char} (h : Sealed d u) (rest : List Char) :
    splitChars d (u ++ rest) = (splitChars d rest).modifyHead (u ++ ·) := by
  induction h with
  | nil =>
    rw [List.nil_append]
    cases splitChars d rest <;> rfl
  | escaped c _ ih =>
    rw [List.cons_append, List.cons_append, splitChars_escaped, ih, List.modifyHead_modifyHead]
    rfl
  | plain hc hd _ ih =>
    rw [List.cons_append, splitChars_cons hc, hd, ih, List.modifyHead_modifyHead]
    rfl

theorem splitChars_of_sealed {u : List Char} (h : Sealed d u) : splitChars d u = [u] := by
  have := splitChars_append h []
  simpa [splitChars] using this

theorem splitChars_append_delimiter {u : List Char} (h : Sealed d u) {c : Char} (hc : c ≠ '\\')
    (hd : d c = true) (rest : List Char) :
    splitChars d (u ++ c :: rest) = u :: splitChars d rest := by
  rw [splitChars_append h, splitChars_cons hc, if_pos hd, List.modifyHead_cons, List.append_nil]

/-- Sealed parts come back from the text in which they are joined. -/
theorem splitChars_intercalate {c : Char} (hc : c ≠ '\\') (hd : d c = true)
    {parts : List (List Char)} (hne : parts ≠ []) (h : ∀ part ∈ parts, Sealed d part) :
    splitChars d ([c].intercalate parts) = parts := by
  induction parts with
  | nil => exact absurd rfl hne
  | cons part rest ih =>
    have hp : Sealed d part := h part List.mem_cons_self
    cases rest with
    | nil => rw [List.intercalate_singleton, splitChars_of_sealed hp]
    | cons next rest =>
      rw [List.intercalate_cons_cons, List.append_assoc, List.singleton_append,
        splitChars_append_delimiter hp hc hd,
        ih (List.cons_ne_nil _ _) fun p hp => h p (List.mem_cons_of_mem _ hp)]

/-! ## Strings -/

theorem isDelimiter_iff {delimiter : String} {c e : Char} (h : delimiter.toList = [c]) :
    isDelimiter delimiter e = true ↔ e = c := by
  simp [isDelimiter, h, eq_comm]

/-- Splitting undoes joining with a delimiter of one character if all rendered values are sealed
against it. -/
theorem splitRaw_join {α : Type} {render : α → String} {delimiter : String} {c : Char}
    (hdel : delimiter.toList = [c]) (hc : c ≠ '\\') {values : List α} (hne : values ≠ [])
    (h : ∀ v ∈ values, Sealed (isDelimiter delimiter) (render v).toList) :
    splitRaw (join render delimiter values) delimiter = values.map render := by
  rw [splitRaw, join, String.toList_intercalate, hdel,
    splitChars_intercalate hc ((isDelimiter_iff hdel).mpr rfl) (by simpa using hne),
    List.map_map, List.map_map]
  · exact List.map_congr_left fun v _ => String.ofList_toList
  · intro part hp
    rw [List.map_map] at hp
    obtain ⟨v, hv, rfl⟩ := List.mem_map.mp hp
    exact h v hv

theorem sealed_escape {delimiter : String} {c : Char} (hdel : delimiter.toList = [c])
    (hc : escapeChar c ≠ [c]) (s : String) : Sealed (isDelimiter delimiter) (escape s).toList := by
  rw [escape, String.toList_ofList]
  refine sealed_escapeChars (fun e he => ?_) s.toList
  rw [(isDelimiter_iff hdel).mp he]
  exact hc

/-- Joined parts stay sealed against a delimiter if the text between them is. -/
theorem sealed_join {α : Type} {render : α → String} {sep : String} {values : List α}
    (hsep : Sealed d sep.toList) (h : ∀ v ∈ values, Sealed d (render v).toList) :
    Sealed d (join render sep values).toList := by
  rw [join, String.toList_intercalate]
  refine hsep.intercalate fun part hp => ?_
  rw [List.map_map] at hp
  obtain ⟨v, hv, rfl⟩ := List.mem_map.mp hp
  exact h v hv

/-- Splitting undoes the joining of escaped values, up to the style of their line breaks. -/
theorem split_joinEscaped {delimiter : String} {c : Char} (hdel : delimiter.toList = [c])
    (hc : c ≠ '\\') (hesc : escapeChar c ≠ [c]) {values : List String} (hne : values ≠ []) :
    split (joinEscaped delimiter values) delimiter = values.map normalizeBreaks := by
  rw [split, joinEscaped, splitRaw_join hdel hc hne fun v _ => sealed_escape hdel hesc v,
    List.map_map]
  exact List.map_congr_left fun v _ => unescape_escape v

/-! ## Unescaping what was joined -/

theorem unescapeChars_append {u : List Char} (h : Sealed d u) (rest : List Char) :
    unescapeChars (u ++ rest) = unescapeChars u ++ unescapeChars rest := by
  induction h with
  | nil => rfl
  | escaped c _ ih =>
    rw [List.cons_append, List.cons_append, unescapeChars_escaped, unescapeChars_escaped, ih]
    rfl
  | plain hc _ _ ih =>
    rw [List.cons_append, unescapeChars_plain hc, unescapeChars_plain hc, ih]
    rfl

/-- What goes over closed texts one by one and keeps the character between them goes over joined
texts one by one. -/
theorem apply_intercalate {f : List Char → List Char} {closed : List Char → Prop} {c : Char}
    (hnil : f [] = []) (hcons : ∀ rest, f (c :: rest) = c :: f rest)
    (happend : ∀ u, closed u → ∀ rest, f (u ++ rest) = f u ++ f rest) {parts : List (List Char)}
    (h : ∀ part ∈ parts, closed part) :
    f ([c].intercalate parts) = [c].intercalate (parts.map f) := by
  induction parts with
  | nil => exact hnil
  | cons part rest ih =>
    have hp : closed part := h part List.mem_cons_self
    cases rest with
    | nil => rw [List.map_singleton, List.intercalate_singleton, List.intercalate_singleton]
    | cons next rest =>
      have hr := ih fun p hp => h p (List.mem_cons_of_mem _ hp)
      rw [List.intercalate_cons_cons, List.append_assoc, List.singleton_append, happend part hp,
        hcons, hr]
      simp only [List.map_cons, List.intercalate_cons_cons, List.append_assoc,
        List.singleton_append]

theorem unescapeChars_intercalate {c : Char} (hc : c ≠ '\\') {parts : List (List Char)}
    (h : ∀ part ∈ parts, Sealed d part) :
    unescapeChars ([c].intercalate parts) = [c].intercalate (parts.map unescapeChars) :=
  apply_intercalate rfl (unescapeChars_plain hc) (fun _ hu => unescapeChars_append hu) h

/-- A delimiter is no part of an escape, so that joined values are unescaped one by one. -/
theorem unescape_join {α : Type} {render : α → String} {delimiter : String} {c : Char}
    (hdel : delimiter.toList = [c]) (hc : c ≠ '\\') {values : List α}
    (h : ∀ v ∈ values, Sealed d (render v).toList) :
    unescape (join render delimiter values) =
      delimiter.intercalate (values.map fun v => unescape (render v)) := by
  rw [unescape, join, String.toList_intercalate, hdel, List.map_map, unescapeChars_intercalate hc,
    ← String.toList_inj, String.toList_ofList, String.toList_intercalate, hdel, List.map_map,
    List.map_map]
  · congr 1
    refine List.map_congr_left fun v _ => ?_
    show unescapeChars (render v).toList = (unescape (render v)).toList
    rw [unescape, String.toList_ofList]
  · intro part hp
    obtain ⟨v, hv, rfl⟩ := List.mem_map.mp hp
    exact h v hv

/-- Without splitting, the delimiters of the structure and those of the values become the same. -/
theorem unescape_joinEscaped {delimiter : String} {c : Char} (hdel : delimiter.toList = [c])
    (hc : c ≠ '\\') (hesc : escapeChar c ≠ [c]) (values : List String) :
    unescape (joinEscaped delimiter values) =
      delimiter.intercalate (values.map normalizeBreaks) := by
  rw [joinEscaped, unescape_join hdel hc fun v _ => sealed_escape hdel hesc v]
  simp only [unescape_escape]

end VCardKit.Text
