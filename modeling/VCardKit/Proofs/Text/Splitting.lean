/-
  Splitting and joining undo each other. The parts of a text, joined again, are the text; the
  unescaped parts, joined, are the unescaped text (`join_split`), because splitting and unescaping
  pass over escapes alike and no part but the last ends inside one. What splitting gives is thus
  always `Separable`, and the separable lists are exactly those that come back from the text in
  which they are joined (`splitRaw_join_eq_self_iff`).
-/
import VCardKit.Proofs.Text.Bare

namespace VCardKit.Text

variable {d : Char → Bool}

/-! ## Joining what was split -/

/-- A function that goes over a text from escape to escape: it keeps plain characters and puts
something of its own in the place of each escape. -/
structure OverEscapes (f : List Char → List Char) : Prop where
  nil : f [] = []
  escaped : ∀ c, ∃ u, ∀ rest, f ('\\' :: c :: rest) = u ++ f rest
  plain : ∀ c, c ≠ '\\' → ∀ rest, f (c :: rest) = c :: f rest

theorem overEscapes_id : OverEscapes id where
  nil := rfl
  escaped c := ⟨['\\', c], fun _ => rfl⟩
  plain _ _ _ := rfl

theorem overEscapes_unescapeChars : OverEscapes unescapeChars where
  nil := rfl
  escaped c := ⟨[unescapeChar c], unescapeChars_escaped c⟩
  plain _ := unescapeChars_plain

/-- What is put in front of the first part stands in front of the joined text. -/
theorem intercalate_map_modifyHead {f g : List Char → List Char} {u : List Char}
    (h : ∀ p, f (g p) = u ++ f p) (sep : List Char) {parts : List (List Char)} (hne : parts ≠ []) :
    sep.intercalate ((parts.modifyHead g).map f) = u ++ sep.intercalate (parts.map f) := by
  cases parts with
  | nil => exact absurd rfl hne
  | cons p rest =>
    rw [List.modifyHead_cons, List.map_cons, List.map_cons, h]
    cases rest with
    | nil => rw [List.map_nil, List.intercalate_singleton, List.intercalate_singleton]
    | cons next rest =>
      simp only [List.map_cons, List.intercalate_cons_cons, List.append_assoc]

/-- Such a function may be applied part by part: splitting leaves no escape divided. -/
theorem intercalate_map_splitChars {f : List Char → List Char} (hf : OverEscapes f)
    {sep : List Char} (hsep : ∀ c, d c = true → sep = [c]) (cs : List Char) :
    sep.intercalate ((splitChars d cs).map f) = f cs := by
  induction cs using escapes_induction with
  | nil => rw [splitChars, List.map_singleton, List.intercalate_singleton]
  | dangling => rw [splitChars, List.map_singleton, List.intercalate_singleton]
  | escaped c rest ih =>
    obtain ⟨u, hu⟩ := hf.escaped c
    rw [splitChars_escaped, intercalate_map_modifyHead hu sep (splitChars_ne_nil d rest), ih, hu]
  | plain c rest hc ih =>
    have hcons : ∀ p, f (c :: p) = [c] ++ f p := hf.plain c hc
    rw [splitChars_cons hc, hcons]
    split
    · next hd =>
      -- A further part begins; joining puts the delimiter before it again.
      obtain ⟨p, ps, hps⟩ := List.exists_cons_of_ne_nil (splitChars_ne_nil d rest)
      rw [hps, List.map_cons] at ih ⊢
      rw [List.map_cons, List.intercalate_cons_cons, hf.nil, List.nil_append, ih, hsep c hd]
    · rw [intercalate_map_modifyHead hcons sep (splitChars_ne_nil d rest), ih]

theorem join_map_splitRaw {f : List Char → List Char} (hf : OverEscapes f)
    (value delimiter : String) :
    join (fun p => .ofList (f p.toList)) delimiter (splitRaw value delimiter) =
      .ofList (f value.toList) := by
  have hsep : ∀ c, isDelimiter delimiter c = true → delimiter.toList = [c] := fun c hc => by
    simpa [isDelimiter] using hc
  rw [← String.toList_inj, join, splitRaw, String.toList_intercalate, String.toList_ofList,
    ← intercalate_map_splitChars hf hsep]
  simp only [List.map_map, Function.comp_def, String.toList_ofList]

/-- **Splitting loses nothing.** The parts joined with the delimiter are the text, and the unescaped
parts joined with it are the unescaped text, whatever the delimiter is. -/
theorem join_split (value delimiter : String) :
    join id delimiter (splitRaw value delimiter) = value ∧
      join id delimiter (split value delimiter) = unescape value := by
  constructor
  · have hid : (fun p : String => String.ofList (id p.toList)) = id :=
      funext fun _ => String.ofList_toList
    have h := join_map_splitRaw overEscapes_id value delimiter
    rwa [hid, id, String.ofList_toList] at h
  · have h := join_map_splitRaw overEscapes_unescapeChars value delimiter
    rw [join, split, List.map_id]
    exact h

/-! ## What stands where in a part -/

/-- Every occurrence of the character is escaped: an odd number of backslashes stands before it. -/
def OnlyEscaped (c : Char) (cs : List Char) : Prop :=
  ∀ before after, cs = before ++ c :: after → trailingBackslashes before % 2 = 1

/-- A character that is no backslash is bare where no escape is open before it. -/
theorem mem_bare_iff {c : Char} (hc : c ≠ '\\') (cs : List Char) :
    c ∈ bare cs ↔ ∃ before after, cs = before ++ c :: after ∧ '\\' ∉ bare before := by
  constructor
  · intro h
    induction cs using escapes_induction with
    | nil => cases h
    | dangling => exact absurd (List.mem_singleton.1 h) hc
    | escaped e rest ih =>
      obtain ⟨before, after, rfl, hbefore⟩ := ih (by rwa [bare_escaped] at h)
      exact ⟨'\\' :: e :: before, after, rfl, by rwa [bare_escaped]⟩
    | plain e rest he ih =>
      rw [bare_plain he, List.mem_cons] at h
      rcases h with rfl | h
      · exact ⟨[], rest, rfl, List.not_mem_nil⟩
      · obtain ⟨before, after, rfl, hbefore⟩ := ih h
        refine ⟨e :: before, after, rfl, ?_⟩
        rw [bare_plain he, List.mem_cons, not_or]
        exact ⟨Ne.symm he, hbefore⟩
  · rintro ⟨before, after, rfl, hbefore⟩
    rw [bare_append hbefore, bare_plain hc]
    exact List.mem_append_right _ List.mem_cons_self

theorem onlyEscaped_iff {c : Char} (hc : c ≠ '\\') {cs : List Char} :
    OnlyEscaped c cs ↔ c ∉ bare cs := by
  rw [mem_bare_iff hc]
  constructor
  · rintro h ⟨before, after, hcs, hbefore⟩
    exact hbefore ((backslash_mem_bare_iff before).2 (h before after hcs))
  · intro h before after hcs
    by_contra hodd
    exact h ⟨before, after, hcs, fun hbefore => hodd ((backslash_mem_bare_iff before).1 hbefore)⟩

theorem sealed_iff {cs : List Char} :
    Sealed d cs ↔ '\\' ∉ bare cs ∧ ∀ x ∈ bare cs, d x = false := by
  constructor
  · intro h
    exact ⟨fun hx => (of_mem_bare_of_sealed h _ hx).1 rfl,
      fun x hx => (of_mem_bare_of_sealed h x hx).2⟩
  · rintro ⟨hclosed, hbare⟩
    induction cs using escapes_induction with
    | nil => exact .nil
    | dangling => exact absurd List.mem_cons_self hclosed
    | escaped c rest ih =>
      rw [bare_escaped] at hclosed hbare
      exact .escaped c (ih hclosed hbare)
    | plain c rest hc ih =>
      rw [bare_plain hc] at hclosed hbare
      exact .plain hc (hbare c List.mem_cons_self)
        (ih (fun h => hclosed (List.mem_cons_of_mem _ h))
          fun x hx => hbare x (List.mem_cons_of_mem _ hx))

/-! ## Separable lists -/

/-- Parts that a splitting can tell apart: no delimiter is bare in any of them, and only the last
may end inside an escape. -/
inductive Separable (d : Char → Bool) : List (List Char) → Prop
  | last {p : List Char} : (∀ x ∈ bare p, d x = false) → Separable d [p]
  | cons {p : List Char} {rest : List (List Char)} :
      Sealed d p → Separable d rest → Separable d (p :: rest)

theorem separable_singleton_iff {p : List Char} :
    Separable d [p] ↔ ∀ x ∈ bare p, d x = false := by
  constructor
  · intro h
    cases h with
    | last hp => exact hp
    | cons _ hrest => cases hrest
  · exact .last

theorem separable_cons_iff {p next : List Char} {rest : List (List Char)} :
    Separable d (p :: next :: rest) ↔ Sealed d p ∧ Separable d (next :: rest) := by
  constructor
  · intro h
    cases h with
    | cons hp hrest => exact ⟨hp, hrest⟩
  · exact fun h => .cons h.1 h.2

theorem separable_iff {parts : List (List Char)} (hne : parts ≠ []) :
    Separable d parts ↔
      (∀ p ∈ parts, ∀ x ∈ bare p, d x = false) ∧ ∀ p ∈ parts.dropLast, '\\' ∉ bare p := by
  induction parts with
  | nil => exact absurd rfl hne
  | cons p rest ih =>
    cases rest with
    | nil =>
      rw [separable_singleton_iff, List.forall_mem_singleton, List.dropLast_singleton]
      simp only [List.not_mem_nil, false_implies, implies_true, and_true]
    | cons next rest =>
      rw [separable_cons_iff, sealed_iff, ih (List.cons_ne_nil _ _), List.dropLast_cons_cons]
      simp only [List.forall_mem_cons]
      tauto

theorem Separable.modifyHead {parts : List (List Char)} (h : Separable d parts)
    {g : List Char → List Char}
    (hbare : ∀ p, (∀ x ∈ bare p, d x = false) → ∀ x ∈ bare (g p), d x = false)
    (hsealed : ∀ p, Sealed d p → Sealed d (g p)) : Separable d (parts.modifyHead g) := by
  cases h with
  | last hp => exact .last (hbare _ hp)
  | cons hp hrest => exact .cons (hsealed _ hp) hrest

/-- Whatever is split, the parts are separable. -/
theorem separable_splitChars (hd : d '\\' = false) (cs : List Char) :
    Separable d (splitChars d cs) := by
  induction cs using escapes_induction with
  | nil => exact .last (by simp [bare])
  | dangling => exact .last (by simpa [bare] using hd)
  | escaped c rest ih =>
    rw [splitChars_escaped]
    refine ih.modifyHead (fun p hp => ?_) fun p hp => .escaped c hp
    rwa [bare_escaped]
  | plain c rest hc ih =>
    rw [splitChars_cons hc]
    split
    · exact .cons .nil ih
    · next hdc =>
      have hdc : d c = false := by simpa using hdc
      refine ih.modifyHead (fun p hp => ?_) fun p hp => .plain hc hdc hp
      rw [bare_plain hc]
      exact List.forall_mem_cons.2 ⟨hdc, hp⟩

/-- A text without bare delimiters is one part, even if it ends inside an escape. -/
theorem splitChars_of_bare {cs : List Char} (h : ∀ x ∈ bare cs, d x = false) :
    splitChars d cs = [cs] := by
  induction cs using escapes_induction with
  | nil => rfl
  | dangling => rfl
  | escaped c rest ih =>
    rw [bare_escaped] at h
    rw [splitChars_escaped, ih h, List.modifyHead_cons]
  | plain c rest hc ih =>
    rw [bare_plain hc, List.forall_mem_cons] at h
    rw [splitChars_cons hc, h.1, ih h.2]
    rfl

theorem Separable.splitChars_intercalate {c : Char} (hc : c ≠ '\\') (hd : d c = true)
    {parts : List (List Char)} (h : Separable d parts) :
    splitChars d ([c].intercalate parts) = parts := by
  induction h with
  | last hp => rw [List.intercalate_singleton, splitChars_of_bare hp]
  | @cons p rest hp hrest ih =>
    obtain ⟨next, rest, rfl⟩ : ∃ next rest', rest = next :: rest' := by
      cases hrest <;> exact ⟨_, _, rfl⟩
    rw [List.intercalate_cons_cons, List.append_assoc, List.singleton_append,
      splitChars_append_delimiter hp hc hd, ih]

theorem splitChars_intercalate_eq_self_iff {c : Char} (hc : c ≠ '\\') (hd : d c = true)
    (hbackslash : d '\\' = false) {parts : List (List Char)} :
    splitChars d ([c].intercalate parts) = parts ↔ Separable d parts := by
  constructor
  · intro h
    rw [← h]
    exact separable_splitChars hbackslash _
  · exact Separable.splitChars_intercalate hc hd

/-! ## Splitting what was joined -/

theorem splitRaw_join_eq_self_iff_separable {delimiter : String} {c : Char}
    (hdel : delimiter.toList = [c]) (hc : c ≠ '\\') (parts : List String) :
    splitRaw (join id delimiter parts) delimiter = parts ↔
      Separable (isDelimiter delimiter) (parts.map String.toList) := by
  have hd : isDelimiter delimiter c = true := (isDelimiter_iff hdel).2 rfl
  have hbackslash : isDelimiter delimiter '\\' = false :=
    Bool.eq_false_iff.2 fun h => hc ((isDelimiter_iff hdel).1 h).symm
  have htoList : ∀ l : List (List Char), (l.map String.ofList).map String.toList = l := fun l => by
    simp only [List.map_map, Function.comp_def, String.toList_ofList, List.map_id']
  rw [← splitChars_intercalate_eq_self_iff hc hd hbackslash,
    ← (List.map_injective_iff.2 fun _ _ => String.toList_inj.1).eq_iff, splitRaw, htoList, join,
    String.toList_intercalate, hdel, List.map_id]

/-- **Splitting undoes joining on the separable lists and on no others.** A list of parts comes back
from the text in which it is joined exactly if every delimiter inside a part is escaped and no part
but the last ends in an unpaired backslash. -/
theorem splitRaw_join_eq_self_iff {delimiter : String} {c : Char} (hdel : delimiter.toList = [c])
    (hc : c ≠ '\\') {parts : List String} (hne : parts ≠ []) :
    splitRaw (join id delimiter parts) delimiter = parts ↔
      (∀ p ∈ parts, OnlyEscaped c p.toList) ∧
        ∀ p ∈ parts.dropLast, trailingBackslashes p.toList % 2 = 0 := by
  have hmap : parts.map String.toList ≠ [] := by simpa using hne
  have hescaped : ∀ p : List Char, (∀ x ∈ bare p, isDelimiter delimiter x = false) ↔
      OnlyEscaped c p := fun p => by
    rw [onlyEscaped_iff hc]
    simp only [Bool.eq_false_iff, ne_eq, isDelimiter_iff hdel]
    exact ⟨fun h hx => h c hx rfl, fun h x hx hxc => h (hxc ▸ hx)⟩
  have hclosed : ∀ p : List Char, '\\' ∉ bare p ↔ trailingBackslashes p % 2 = 0 := fun p => by
    rw [backslash_mem_bare_iff]
    omega
  rw [splitRaw_join_eq_self_iff_separable hdel hc, separable_iff hmap, ← List.map_dropLast]
  simp only [hescaped, hclosed, List.forall_mem_map]

/-- An escaped delimiter, an empty part and an open escape at the very end come back; an open escape
before the end takes the delimiter behind it along. -/
theorem splitRaw_join_eq_self_iff_borders :
    splitRaw (join id "," ["a\\,b", "", "c\\"]) "," = ["a\\,b", "", "c\\"] ∧
      splitRaw (join id "," ["a\\", "b"]) "," ≠ ["a\\", "b"] := by
  constructor
  · have hescaped : ∀ p ∈ ["a\\,b", "", "c\\"], OnlyEscaped ',' p.toList := by
      simp only [onlyEscaped_iff (show ',' ≠ '\\' by decide)]
      decide
    exact (splitRaw_join_eq_self_iff rfl (by decide) (by decide)).2 ⟨hescaped, by decide⟩
  · intro h
    obtain ⟨-, hclosed⟩ := (splitRaw_join_eq_self_iff rfl (by decide) (by decide)).1 h
    exact absurd (hclosed "a\\" (by decide)) (by decide)

end VCardKit.Text
