/-
  Tables: rows that are found by their position. Rows are added at the end and never removed, so a
  position stays valid.
-/
namespace VCardKit

/-- Rows found by their position. -/
structure Table (α : Type) where
  rows : Array α := #[]

namespace Table

variable {α : Type}

def size (t : Table α) : Nat := t.rows.size

/-- The row at a position. -/
def get [Inhabited α] (t : Table α) (i : Nat) : α := t.rows[i]?.getD default

/-- The table with another row at a position. -/
def set (t : Table α) (i : Nat) (row : α) : Table α := ⟨t.rows.setIfInBounds i row⟩

/-- The table with one more row, which stands at the position `size`. -/
def add (t : Table α) (row : α) : Table α := ⟨t.rows.push row⟩

/-! ## Reading back -/

theorem size_add (t : Table α) (row : α) : (t.add row).size = t.size + 1 := by
  simp [add, size]

theorem size_set (t : Table α) (i : Nat) (row : α) : (t.set i row).size = t.size := by
  simp [set, size]

theorem get_add_size [Inhabited α] (t : Table α) (row : α) : (t.add row).get t.size = row := by
  simp [add, get, size]

/-- Beyond the end there are default rows. -/
theorem get_size [Inhabited α] (t : Table α) : t.get t.size = default := by
  simp [get, size]

theorem get_add_of_lt [Inhabited α] {t : Table α} {i : Nat} (h : i < t.size) (row : α) :
    (t.add row).get i = t.get i := by
  have hi : i ≠ t.rows.size := Nat.ne_of_lt h
  simp [add, get, Array.getElem?_push, hi]

/-- A default row that is added shows beyond the end already. -/
theorem get_add_default [Inhabited α] (t : Table α) (i : Nat) :
    (t.add default).get i = t.get i := by
  simp only [add, get, Array.getElem?_push]
  split
  · next h => simp [h]
  · rfl

theorem get_set_self [Inhabited α] {t : Table α} {i : Nat} (h : i < t.size) (row : α) :
    (t.set i row).get i = row := by
  have hi : i < t.rows.size := h
  simp [set, get, hi]

theorem get_set_of_ne [Inhabited α] (t : Table α) {i j : Nat} (h : i ≠ j) (row : α) :
    (t.set i row).get j = t.get j := by
  simp [set, get, h]

/-- A row that is put where it stands already, in a table or beyond its end, changes nothing. -/
theorem set_get_self [Inhabited α] (t : Table α) (i : Nat) : t.set i (t.get i) = t := by
  refine congrArg Table.mk (Array.ext_getElem? fun j => ?_)
  rw [Array.getElem?_setIfInBounds]
  split
  · next h =>
    subst h
    split
    · next hlt => simp [get, hlt]
    · next hlt => simp [hlt]
  · rfl

end Table

end VCardKit
