/-
  Rows of names with their values, in order of arrival. A row list is well formed if the names are
  distinct, every name has at least one value, and every name is in upper case. Each operation is
  shown to keep this.
-/
import VCardKit.Text.Case

namespace VCardKit.Parameters

/-- The form in which a name is stored: names that differ in case only are one name. -/
def key (name : String) : String := Text.upper name

/-- Names with their values. -/
abbrev Entries := List (String × List String)

namespace Entries

/-- The names, in order. -/
def names (es : Entries) : List String := es.map (·.1)

/-- The values under a stored name. -/
def values (k : String) (es : Entries) : List String := (es.lookup k).getD []

/-- The rows with a value put behind those of its name; a new name goes last. -/
def put (k v : String) : Entries → Entries
  | [] => [(k, [v])]
  | (n, vs) :: rest => if n = k then (n, vs ++ [v]) :: rest else (n, vs) :: put k v rest

/-- The rows without a name. -/
def drop (k : String) (es : Entries) : Entries := es.filter fun e => e.1 != k

/-- The rows without the first occurrence of a value under a name; a name that loses its last value
goes. -/
def removeFirst (k v : String) : Entries → Entries
  | [] => []
  | (n, vs) :: rest =>
    if n = k then
      if (vs.erase v).isEmpty then rest else (n, vs.erase v) :: rest
    else (n, vs) :: removeFirst k v rest

/-- The rows with other values under a name that is there. -/
def assign (k : String) (values : List String) : Entries → Entries
  | [] => []
  | (n, vs) :: rest => if n = k then (n, values) :: rest else (n, vs) :: assign k values rest

theorem drop_assign (k : String) (values : List String) (es : Entries) :
    drop k (assign k values es) = drop k es := by
  induction es with
  | nil => rfl
  | cons e es ih =>
    obtain ⟨n, vs⟩ := e
    rw [assign]
    split
    · next hn => simp [drop, hn]
    · simp only [drop, List.filter_cons] at ih ⊢
      rw [ih]

/-! ## Well-formed rows -/

/-- What holds of the rows of every container. -/
structure WellFormed (es : Entries) : Prop where
  distinct : (names es).Nodup
  inhabited : ∀ e ∈ es, e.2 ≠ []
  upperCase : ∀ e ∈ es, ∃ name, e.1 = key name

theorem wellFormed_nil : WellFormed [] :=
  ⟨List.nodup_nil, by simp, by simp⟩

theorem WellFormed.sublist {es es' : Entries} (h : WellFormed es') (s : es.Sublist es') :
    WellFormed es :=
  ⟨h.distinct.sublist (s.map _), fun e he => h.inhabited e (s.subset he),
    fun e he => h.upperCase e (s.subset he)⟩

theorem names_put (k v : String) (es : Entries) :
    names (put k v es) = if k ∈ names es then names es else names es ++ [k] := by
  induction es with
  | nil => rfl
  | cons e rest ih =>
    obtain ⟨n, vs⟩ := e
    by_cases hn : n = k
    · simp [put, names, hn]
    · have hk : k ≠ n := fun h => hn h.symm
      by_cases hm : k ∈ names rest <;> simp_all [put, names]

theorem mem_put {k v : String} {es : Entries} {e : String × List String} (h : e ∈ put k v es) :
    e ∈ es ∨ (e.1 = k ∧ e.2 ≠ []) := by
  induction es with
  | nil => simp_all [put]
  | cons d rest ih =>
    obtain ⟨n, vs⟩ := d
    unfold put at h
    split at h
    · rcases List.mem_cons.1 h with h | h
      · subst h; right; simp_all
      · left; simp [h]
    · rcases List.mem_cons.1 h with h | h
      · left; simp [h]
      · rcases ih h with h | h
        · left; simp [h]
        · right; exact h

theorem WellFormed.put {es : Entries} (h : WellFormed es) (name v : String) :
    WellFormed (Entries.put (key name) v es) := by
  refine ⟨?_, fun e he => ?_, fun e he => ?_⟩
  · rw [names_put]
    split
    · exact h.distinct
    · next hk =>
      refine List.nodup_append.2 ⟨h.distinct, by simp, ?_⟩
      intro a ha b hb hab
      rw [List.mem_singleton] at hb
      exact hk (hb ▸ hab ▸ ha)
  · rcases mem_put he with hm | hm
    · exact h.inhabited e hm
    · exact hm.2
  · rcases mem_put he with hm | hm
    · exact h.upperCase e hm
    · exact ⟨name, hm.1⟩

theorem WellFormed.drop {es : Entries} (h : WellFormed es) (k : String) :
    WellFormed (Entries.drop k es) :=
  h.sublist List.filter_sublist

theorem names_removeFirst_sublist (k v : String) (es : Entries) :
    (names (removeFirst k v es)).Sublist (names es) := by
  induction es with
  | nil => exact List.Sublist.refl _
  | cons e rest ih =>
    obtain ⟨n, vs⟩ := e
    unfold removeFirst
    split
    · split
      · exact List.sublist_cons_self _ _
      · exact List.Sublist.refl _
    · exact ih.cons_cons _

theorem mem_removeFirst {k v : String} {es : Entries} {e : String × List String}
    (h : e ∈ removeFirst k v es) : e ∈ es ∨ (e.1 ∈ names es ∧ e.2 ≠ []) := by
  induction es with
  | nil => simp [removeFirst] at h
  | cons d rest ih =>
    obtain ⟨n, vs⟩ := d
    unfold removeFirst at h
    split at h
    · split at h
      · left; simp [h]
      · next hv =>
        rcases List.mem_cons.1 h with h | h
        · subst h
          right
          exact ⟨by simp [names], by simpa using hv⟩
        · left; simp [h]
    · rcases List.mem_cons.1 h with h | h
      · left; simp [h]
      · rcases ih h with h | h
        · left; simp [h]
        · right; exact ⟨by simp [names] at h ⊢; exact Or.inr h.1, h.2⟩

theorem WellFormed.removeFirst {es : Entries} (h : WellFormed es) (k v : String) :
    WellFormed (Entries.removeFirst k v es) := by
  refine ⟨h.distinct.sublist (names_removeFirst_sublist k v es), fun e he => ?_, fun e he => ?_⟩
  · rcases mem_removeFirst he with hm | hm
    · exact h.inhabited e hm
    · exact hm.2
  · rcases mem_removeFirst he with hm | hm
    · exact h.upperCase e hm
    · obtain ⟨d, hd, hn⟩ := List.mem_map.1 hm.1
      rw [← hn]
      exact h.upperCase d hd

end Entries

end VCardKit.Parameters
