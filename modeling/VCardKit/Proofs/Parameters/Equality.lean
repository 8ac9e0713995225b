/-
  Equal containers. Two containers are equal exactly if every name has the same values in both: no
  name is stored without values, so the values tell all names, and the rows of equal containers
  differ in their order alone (`perm_entries_iff`). Whatever looks at the rows one by one then
  answers alike for both, the order of its answers aside (`same_iff_forall_get`).
-/
import VCardKit.Parameters.Validation
import VCardKit.Proofs.Parameters.Multimap
import Mathlib.Data.List.Nodup
import Mathlib.Data.List.Perm.Subperm

namespace VCardKit.Parameters

/-! ## Rows in another order -/

namespace Entries

variable {k : String} {es es' : Entries}

/-- With distinct names, a row is found under its name and no other row is. -/
theorem lookup_eq_some_iff (h : (names es).Nodup) {vs : List String} :
    es.lookup k = some vs ↔ (k, vs) ∈ es := by
  induction es with
  | nil => simp
  | cons e es ih =>
    obtain ⟨n, ws⟩ := e
    rw [names_cons, List.nodup_cons] at h
    rw [List.lookup_cons, List.mem_cons, Prod.mk.injEq]
    by_cases hk : k = n
    · subst hk
      have hnot : (k, vs) ∉ es := fun hmem => h.1 (List.mem_map.2 ⟨(k, vs), hmem, rfl⟩)
      simp only [beq_self_eq_true, Option.some.injEq, true_and, hnot, or_false, eq_comm]
    · rw [beq_eq_false_iff_ne.2 hk]
      simp only [ih h.2, hk, false_and, false_or]

theorem values_eq_of_perm (h : (names es).Nodup) (hperm : es.Perm es') :
    values k es = values k es' := by
  have h' : (names es').Nodup := (hperm.map _).nodup h
  have hlookup : es.lookup k = es'.lookup k := Option.ext fun vs => by
    rw [lookup_eq_some_iff h, lookup_eq_some_iff h', hperm.mem_iff]
  rw [values, values, hlookup]

end Entries

variable {a b c : Parameters}

theorem nodup_entries (c : Parameters) : c.entries.Nodup := c.wellFormed.distinct.of_map

/-- The rows of a container are the stored names with their values. -/
theorem mem_entries_iff {e : String × List String} :
    e ∈ c.entries ↔ key e.1 = e.1 ∧ e.2 ≠ [] ∧ c.get e.1 = e.2 := by
  constructor
  · intro he
    exact ⟨key_of_mem_entries he, c.wellFormed.inhabited e he, get_of_mem_entries he⟩
  · rintro ⟨hkey, hne, hget⟩
    have hmem : e.1 ∈ c.names := by
      rw [← hkey, mem_names_iff, hget]
      exact hne
    obtain ⟨row, hrow, hname⟩ := List.mem_map.1 hmem
    have hvalues : row.2 = e.2 := by rw [← get_of_mem_entries hrow, hname, hget]
    rwa [← Prod.ext hname hvalues]

/-- The values under the names tell the rows but for their order. -/
theorem perm_entries_iff : a.entries.Perm b.entries ↔ ∀ n, a.get n = b.get n := by
  constructor
  · intro h n
    exact Entries.values_eq_of_perm a.wellFormed.distinct h
  · intro h
    rw [List.perm_ext_iff_of_nodup (nodup_entries a) (nodup_entries b)]
    intro e
    rw [mem_entries_iff, mem_entries_iff, h]

theorem same_iff_perm : a.same b = true ↔ a.entries.Perm b.entries := by
  rw [same, Bool.and_eq_true, decide_eq_true_eq, List.all_eq_true]
  simp only [decide_eq_true_eq, Entries.lookup_eq_some_iff b.wellFormed.distinct]
  constructor
  · rintro ⟨hlength, hsub⟩
    exact (List.subperm_of_subset (nodup_entries a) hsub).perm_of_length_le hlength.ge
  · intro h
    exact ⟨h.length_eq, fun e he => h.mem_iff.1 he⟩

/-! ## What equal containers show -/

/-- No observer tells two containers apart, the order of the warnings aside. -/
structure ShowsAlike (a b : Parameters) : Prop where
  size : a.size = b.size
  contains : ∀ n, a.contains n = b.contains n
  pref : a.pref? = b.pref?
  index : a.index? = b.index?
  dataType : a.dataType? = b.dataType?
  text : ∀ field, a.text? field = b.text? field
  types : a.types = b.types
  pids : a.pids = b.pids
  warnings : ∀ version, (a.validate version).Perm (b.validate version)

theorem first?_eq_of_perm (hperm : a.entries.Perm b.entries) (n : String) :
    a.first? n = b.first? n := by
  rw [first?, first?, perm_entries_iff.1 hperm]

theorem showsAlike_of_perm (hperm : a.entries.Perm b.entries) : ShowsAlike a b where
  size := (hperm.flatMap_right _).length_eq
  contains _ := (hperm.map _).contains_eq
  pref := by rw [pref?, pref?, first?_eq_of_perm hperm]
  index := by rw [index?, index?, first?_eq_of_perm hperm]
  dataType := by rw [dataType?, dataType?, first?_eq_of_perm hperm]
  text field := first?_eq_of_perm hperm field.name
  types := perm_entries_iff.1 hperm "TYPE"
  pids := by rw [pids, pids, perm_entries_iff.1 hperm]
  warnings version := hperm.flatMap_right (entryWarnings version)

/-- **Equality of containers is equality of what they show.** Two containers are equal exactly if
every name has the same values in both, in whatever order the names came; and equal containers are
alike to every observer. -/
theorem same_iff_forall_get (a b : Parameters) :
    (a.same b = true ↔ ∀ n, a.get n = b.get n) ∧ (a.same b = true → ShowsAlike a b) :=
  ⟨same_iff_perm.trans perm_entries_iff, fun h => showsAlike_of_perm (same_iff_perm.1 h)⟩

/-- Two containers whose names came in another order and case; their warnings come in another order
too. -/
theorem same_iff_forall_get_reordered :
    let a := ofList [("INDEX", "x"), ("pref", "0")]
    let b := ofList [("PREF", "0"), ("Index", "x")]
    a.names ≠ b.names ∧ a.validate .v4_0 ≠ b.validate .v4_0 ∧ a.same b = true ∧ ShowsAlike a b := by
  intro a b
  have hsame : a.same b = true := by decide +kernel
  exact ⟨by decide +kernel, by decide +kernel, hsame, (same_iff_forall_get a b).2 hsame⟩

end VCardKit.Parameters
