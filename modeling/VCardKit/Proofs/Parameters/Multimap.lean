/-
  A container of parameters is an ordered multimap whose names are compared by their upper case.
  `IsMultimap` is what its observers agree on, and holds of every container. `OnlyChanges` is what
  every change of one name leaves alone: the values under the other names and their order; the
  changes themselves are given by their effect on the values and on the names.
-/
import VCardKit.Parameters.Basic
import VCardKit.Proofs.Parameters.Entries
import VCardKit.Proofs.Text.Case
import Mathlib.Tactic.TFAE

namespace VCardKit.Parameters

variable {c : Parameters} {n : String}

/-! ## Looking -/

theorem mem_names_iff : key n ∈ c.names ↔ c.get n ≠ [] :=
  (Entries.values_ne_nil_iff c.wellFormed.inhabited).symm

/-- A stored name is in upper case already. -/
theorem key_of_mem_entries {e : String × List String} (he : e ∈ c.entries) : key e.1 = e.1 := by
  obtain ⟨name, hname⟩ := c.wellFormed.upperCase e he
  rw [hname]
  exact Text.upper_upper name

/-- The values of a row are found under its name. -/
theorem get_of_mem_entries {e : String × List String} (he : e ∈ c.entries) : c.get e.1 = e.2 := by
  rw [get, key_of_mem_entries he, Entries.values_of_mem c.wellFormed.distinct he]

/-- What the observers of an ordered multimap agree on. -/
structure IsMultimap (c : Parameters) : Prop where
  names_nodup : c.names.Nodup
  stored_ne_nil : ∀ e ∈ c.entries, e.2 ≠ []
  present_tfae : ∀ n, [c.contains n = true, c.get n ≠ [], c.first? n ≠ none,
    Text.upper n ∈ c.names].TFAE
  items_eq : c.items = c.names.flatMap fun n => (c.get n).map fun v => (n, v)
  size_eq : c.size = c.items.length

theorem items_eq_flatMap (c : Parameters) :
    c.items = c.names.flatMap fun n => (c.get n).map fun v => (n, v) := by
  rw [items, names, Entries.names, List.flatMap_map]
  refine List.flatMap_congr fun e he => ?_
  rw [get_of_mem_entries he]

theorem size_eq_length (c : Parameters) : c.size = c.items.length := by
  rw [size, items, List.length_flatMap, List.length_flatMap]
  simp only [List.length_map]

theorem isMultimap (c : Parameters) : IsMultimap c where
  names_nodup := c.wellFormed.distinct
  stored_ne_nil := c.wellFormed.inhabited
  present_tfae n := by
    tfae_have 1 ↔ 4 := by
      rw [contains, List.contains_iff_mem]
      rfl
    tfae_have 2 ↔ 4 := mem_names_iff.symm
    tfae_have 3 ↔ 2 := by rw [first?, ne_eq, List.head?_eq_none_iff]
    tfae_finish
  items_eq := items_eq_flatMap c
  size_eq := size_eq_length c

/-! ## Changes of one name -/

/-- A change of the name `n`: other names keep their values and their order, and a name that
becomes present goes last. -/
structure OnlyChanges (n : String) (c c' : Parameters) : Prop where
  get_of_ne : ∀ m, Text.upper m ≠ Text.upper n → c'.get m = c.get m
  order : c'.names.filter (· != Text.upper n) = c.names.filter (· != Text.upper n)
  last : Text.upper n ∉ c.names → Text.upper n ∈ c'.names → c'.names = c.names ++ [Text.upper n]

theorem OnlyChanges.refl (n : String) (c : Parameters) : OnlyChanges n c c :=
  ⟨fun _ _ => rfl, rfl, fun h h' => absurd h' h⟩

theorem filter_names_of_not_mem (h : key n ∉ c.names) : c.names.filter (· != key n) = c.names := by
  rw [List.filter_eq_self]
  intro m hm
  rw [bne_iff_ne]
  rintro rfl
  exact h hm

theorem get_put_self (c : Parameters) (n v : String) : (c.put n v).get n = c.get n ++ [v] :=
  Entries.values_put_self (key n) v c.entries

theorem names_put (c : Parameters) (n v : String) :
    (c.put n v).names = if key n ∈ c.names then c.names else c.names ++ [key n] :=
  Entries.names_put (key n) v c.entries

theorem onlyChanges_put (c : Parameters) (n v : String) : OnlyChanges n c (c.put n v) where
  get_of_ne _ h := Entries.values_put_of_ne h v c.entries
  order := by
    rw [names_put]
    split
    · rfl
    · rw [List.filter_append, List.filter_cons_of_neg (by simp [key])]
      simp
  last h _ := (names_put c n v).trans (if_neg h)

theorem get_removeAll_self (c : Parameters) (n : String) : (c.removeAll n).get n = [] :=
  Entries.values_drop_self (key n) c.entries

theorem names_removeAll (c : Parameters) (n : String) :
    (c.removeAll n).names = c.names.filter (· != key n) :=
  Entries.names_drop (key n) c.entries

theorem not_mem_names_removeAll (c : Parameters) (n : String) :
    key n ∉ (c.removeAll n).names := by
  rw [names_removeAll, List.mem_filter]
  simp

theorem onlyChanges_removeAll (c : Parameters) (n : String) : OnlyChanges n c (c.removeAll n) where
  get_of_ne _ h := Entries.values_drop_of_ne h c.entries
  order := by
    rw [names_removeAll, List.filter_filter]
    simp [key]
  last _ h := absurd h (not_mem_names_removeAll c n)

theorem get_replace_self (c : Parameters) (n : String) (v : Option String) :
    (c.replace n v).get n = v.toList := by
  cases v with
  | none => exact get_removeAll_self c n
  | some v => rw [replace, get_put_self, get_removeAll_self]; rfl

/-- With a value, replacing is removal followed by insertion at the end. -/
theorem names_replace (c : Parameters) (n : String) (v : Option String) :
    (c.replace n v).names = c.names.filter (· != key n) ++ v.toList.map fun _ => key n := by
  cases v with
  | none => rw [replace, names_removeAll]; simp
  | some v =>
    rw [replace, names_put, if_neg (not_mem_names_removeAll c n), names_removeAll]
    rfl

theorem onlyChanges_replace (c : Parameters) (n : String) (v : Option String) :
    OnlyChanges n c (c.replace n v) := by
  cases v with
  | none => exact onlyChanges_removeAll c n
  | some v =>
    have hr := onlyChanges_removeAll c n
    have hp := onlyChanges_put (c.removeAll n) n v
    refine ⟨fun m h => (hp.get_of_ne m h).trans (hr.get_of_ne m h), hp.order.trans hr.order, ?_⟩
    intro h _
    rw [names_replace, filter_names_of_not_mem h]
    rfl

theorem get_remove_self (c : Parameters) (n v : String) :
    (c.remove n v).get n = (c.get n).erase v :=
  Entries.values_removeFirst_self c.wellFormed.distinct v

theorem names_remove (c : Parameters) (n v : String) :
    (c.remove n v).names =
      if (c.get n).erase v = [] then c.names.filter (· != key n) else c.names :=
  Entries.names_removeFirst c.wellFormed.distinct (key n) v

theorem onlyChanges_remove (c : Parameters) (n v : String) :
    OnlyChanges n c (c.remove n v) where
  get_of_ne _ h := Entries.values_removeFirst_of_ne h v c.entries
  order := by
    rw [names_remove]
    split
    · rw [List.filter_filter]
      simp [key]
    · rfl
  last h h' := by
    rw [names_remove] at h'
    split at h'
    · exact absurd (List.mem_of_mem_filter h') h
    · exact absurd h' h

end VCardKit.Parameters
