/-
  What the changes of the rows do to the names and to the values under a name. Each change of a name
  leaves the values under every other name alone; what it does to the names is given in full, so
  that the order of the others can be read off.
-/
import VCardKit.Parameters.Entries
import Mathlib.Data.List.Basic

namespace VCardKit.Parameters.Entries

variable {j k v : String} {es : Entries}

/-! ## Looking -/

theorem names_cons (e : String × List String) (es : Entries) : names (e :: es) = e.1 :: names es :=
  rfl

theorem values_cons (j : String) (e : String × List String) (es : Entries) :
    values j (e :: es) = if j = e.1 then e.2 else values j es := by
  unfold values
  rw [List.lookup_cons]
  by_cases h : j = e.1
  · rw [if_pos h, beq_iff_eq.mpr h]
    rfl
  · rw [if_neg h, beq_eq_false_iff_ne.mpr h]

theorem values_of_not_mem (h : k ∉ names es) : values k es = [] := by
  induction es with
  | nil => rfl
  | cons e es ih =>
    rw [names_cons, List.mem_cons, not_or] at h
    rw [values_cons, if_neg h.1, ih h.2]

/-- A name is stored exactly if it has values. -/
theorem values_ne_nil_iff (h : ∀ e ∈ es, e.2 ≠ []) : values k es ≠ [] ↔ k ∈ names es := by
  constructor
  · intro hv
    by_contra hk
    exact hv (values_of_not_mem hk)
  · intro hk
    induction es with
    | nil => cases hk
    | cons e es ih =>
      rw [values_cons]
      split
      · exact h e List.mem_cons_self
      · next hne =>
        rw [names_cons, List.mem_cons] at hk
        exact ih (fun d hd => h d (List.mem_cons_of_mem _ hd)) (hk.resolve_left hne)

/-- With distinct names, the values under the name of a row are those of the row. -/
theorem values_of_mem (h : (names es).Nodup) {e : String × List String} (he : e ∈ es) :
    values e.1 es = e.2 := by
  induction es with
  | nil => cases he
  | cons d es ih =>
    rw [names_cons, List.nodup_cons] at h
    rw [values_cons]
    rcases List.mem_cons.mp he with rfl | he
    · rw [if_pos rfl]
    · have hne : e.1 ≠ d.1 := fun hn => h.1 (hn ▸ List.mem_map.mpr ⟨e, he, rfl⟩)
      rw [if_neg hne, ih h.2 he]

/-! ## Putting -/

theorem values_put_self (k v : String) (es : Entries) :
    values k (put k v es) = values k es ++ [v] := by
  induction es with
  | nil => simp [put, values]
  | cons e es ih =>
    by_cases h : e.1 = k
    · simp [put, values_cons, h]
    · simp [put, values_cons, h, Ne.symm h, ih]

theorem values_put_of_ne (h : j ≠ k) (v : String) (es : Entries) :
    values j (put k v es) = values j es := by
  induction es with
  | nil => simp [put, values_cons, h]
  | cons e es ih =>
    by_cases hk : e.1 = k
    · simp [put, values_cons, hk, h]
    · simp [put, values_cons, hk, ih]

/-- Rows of other names in front stay as they are. -/
theorem put_append_of_not_mem (h : k ∉ names es) (v : String) (rest : Entries) :
    put k v (es ++ rest) = es ++ put k v rest := by
  induction es with
  | nil => rfl
  | cons e es ih =>
    rw [names_cons, List.mem_cons, not_or] at h
    rw [List.cons_append, put, if_neg (Ne.symm h.1), ih h.2, List.cons_append]

theorem put_append_row (h : k ∉ names es) (v : String) (vs : List String) (rest : Entries) :
    put k v (es ++ (k, vs) :: rest) = es ++ (k, vs ++ [v]) :: rest := by
  rw [put_append_of_not_mem h, put, if_pos rfl]

/-- A new name goes last. -/
theorem put_of_not_mem (h : k ∉ names es) (v : String) : put k v es = es ++ [(k, [v])] := by
  have happend := put_append_of_not_mem h v []
  rwa [List.append_nil] at happend

/-! ## Dropping -/

theorem names_drop (k : String) (es : Entries) :
    names (drop k es) = (names es).filter (· != k) := by
  rw [names, names, drop, List.filter_map]
  rfl

theorem values_drop_self (k : String) (es : Entries) : values k (drop k es) = [] := by
  refine values_of_not_mem ?_
  rw [names_drop, List.mem_filter]
  simp

theorem values_drop_of_ne (h : j ≠ k) (es : Entries) : values j (drop k es) = values j es := by
  induction es with
  | nil => rfl
  | cons e es ih =>
    unfold drop at ih ⊢
    by_cases hk : e.1 = k
    · rw [List.filter_cons_of_neg (by simp [hk]), ih, values_cons, if_neg (hk ▸ h)]
    · rw [List.filter_cons_of_pos (by simp [hk]), values_cons, values_cons, ih]

/-! ## Removing one value -/

theorem removeFirst_cons (k v : String) (e : String × List String) (es : Entries) :
    removeFirst k v (e :: es) =
      if e.1 = k then if (e.2.erase v).isEmpty then es else (e.1, e.2.erase v) :: es
      else e :: removeFirst k v es := rfl

theorem values_removeFirst_self (h : (names es).Nodup) (v : String) :
    values k (removeFirst k v es) = (values k es).erase v := by
  induction es with
  | nil => rfl
  | cons e es ih =>
    rw [names_cons, List.nodup_cons] at h
    rw [removeFirst_cons, values_cons]
    by_cases hk : e.1 = k
    · rw [if_pos hk, if_pos hk.symm]
      split
      · next hv => rw [values_of_not_mem (hk ▸ h.1), List.isEmpty_iff.mp hv]
      · rw [values_cons, if_pos hk.symm]
    · rw [if_neg hk, if_neg (Ne.symm hk), values_cons, if_neg (Ne.symm hk), ih h.2]

theorem values_removeFirst_of_ne (h : j ≠ k) (v : String) (es : Entries) :
    values j (removeFirst k v es) = values j es := by
  induction es with
  | nil => rfl
  | cons e es ih =>
    rw [removeFirst_cons, values_cons]
    by_cases hk : e.1 = k
    · have hj : j ≠ e.1 := hk ▸ h
      rw [if_pos hk, if_neg hj]
      split
      · rfl
      · rw [values_cons, if_neg hj]
    · rw [if_neg hk, values_cons, ih]

/-- A name goes with its last value and keeps its place otherwise. -/
theorem names_removeFirst (h : (names es).Nodup) (k v : String) :
    names (removeFirst k v es) =
      if (values k es).erase v = [] then (names es).filter (· != k) else names es := by
  induction es with
  | nil => rfl
  | cons e es ih =>
    rw [names_cons, List.nodup_cons] at h
    rw [removeFirst_cons, values_cons, names_cons]
    by_cases hk : e.1 = k
    · have hes : (names es).filter (· != k) = names es := by
        rw [List.filter_eq_self]
        intro n hn
        rw [bne_iff_ne]
        rintro rfl
        exact h.1 (hk ▸ hn)
      rw [if_pos hk, if_pos hk.symm, List.filter_cons_of_neg (by simp [hk]), hes]
      simp only [List.isEmpty_iff]
      split <;> rfl
    · rw [if_neg hk, if_neg (Ne.symm hk), names_cons, ih h.2,
        List.filter_cons_of_pos (by simp [hk])]
      split <;> rfl

end VCardKit.Parameters.Entries
