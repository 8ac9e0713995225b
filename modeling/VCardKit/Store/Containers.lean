/-
  The containers of a store. They stand in one memory (`Memory`), where no list is named twice, so
  that none can change with another. An edit changes one of them where it stands; a copy gets lists
  of its own. Each operation is shown to make of its container what it makes of parameters, and to
  leave the other containers alone.
-/
import VCardKit.Store.Memory

namespace VCardKit

open Parameters (Answer Change Edit Entries)

/-! ## Memory -/

/-- Lists of values, and the rows of containers that name them. -/
structure Memory where
  lists : ValueLists := {}
  containers : Table Places := {}

namespace Memory

/-- The container at a position; beyond the end there are empty ones. -/
def cell (m : Memory) (i : Nat) : Cell := ⟨m.lists, m.containers.get i⟩

/-- The values of a container. -/
def entries (m : Memory) (i : Nat) : Entries := (m.cell i).entries

/-- The memory with other lists and other rows of one container. -/
def write (m : Memory) (i : Nat) (c : Cell) : Memory := ⟨c.lists, m.containers.set i c.rows⟩

/-- The memory with one more container, which is empty. -/
def grow (m : Memory) : Memory := { m with containers := m.containers.add [] }

/-- No list is named twice, by one container or by two, and each container holds parameters. -/
structure Sound (m : Memory) : Prop where
  cells : ∀ i, (m.cell i).Sound
  apart : ∀ i j, i ≠ j → ∀ place ∈ (m.cell i).rows.places, place ∉ (m.cell j).rows.places
  wellFormed : ∀ i, (m.entries i).WellFormed

theorem cell_empty (i : Nat) : Memory.cell {} i = ⟨{}, []⟩ :=
  rfl

theorem sound_empty : Sound {} where
  cells i := by
    rw [cell_empty]
    exact ⟨nofun, List.nodup_nil⟩
  apart i j _ := by
    rw [cell_empty]
    exact nofun
  wellFormed i := by
    rw [entries, cell_empty]
    exact Entries.wellFormed_nil

/-- An empty container that is added shows beyond the end already. -/
theorem cell_grow (m : Memory) (i : Nat) : m.grow.cell i = m.cell i :=
  congrArg (Cell.mk m.lists) (Table.get_add_default m.containers i)

theorem Sound.grow {m : Memory} (h : m.Sound) : m.grow.Sound where
  cells i := by
    rw [cell_grow]
    exact h.cells i
  apart i j hne := by
    rw [cell_grow, cell_grow]
    exact h.apart i j hne
  wellFormed i := by
    rw [entries, cell_grow]
    exact h.wellFormed i

section

variable {m : Memory} {i j : Nat} {c : Cell}

theorem cell_write_self (hi : i < m.containers.size) : (m.write i c).cell i = c :=
  congrArg (Cell.mk c.lists) (Table.get_set_self hi c.rows)

theorem cell_write_of_ne (hne : i ≠ j) : (m.write i c).cell j = ⟨c.lists, (m.cell j).rows⟩ :=
  congrArg (Cell.mk c.lists) (Table.get_set_of_ne m.containers hne c.rows)

/-- What is local to one container leaves the values of the others. -/
theorem entries_write_of_ne (h : m.Sound) (hlocal : Cell.Local (m.cell i) c) (hne : i ≠ j) :
    (m.write i c).entries j = m.entries j := by
  rw [entries, cell_write_of_ne hne]
  exact Places.entries_congr fun place hplace =>
    hlocal.frame place ((h.cells j).bounded place hplace) (h.apart j i hne.symm place hplace)

/-- A copy that named the lists of its original would change with it. -/
example :
    let m : Memory := { lists := ⟨#[["home"]]⟩, containers := ⟨#[[("TYPE", 0)], [("TYPE", 0)]]⟩ }
    (m.write 0 ((m.cell 0).edit (.put "type" "work"))).entries 1 =
      [("TYPE", ["home", "work"])] := by decide +kernel

/-- After a write, a container names the lists that were written for it, or those of before. -/
theorem mem_places_write (hi : i < m.containers.size) {place : Nat}
    (h : place ∈ ((m.write i c).cell j).rows.places) :
    i = j ∧ place ∈ c.rows.places ∨ i ≠ j ∧ place ∈ (m.cell j).rows.places := by
  by_cases hj : i = j
  · subst hj
    rw [cell_write_self hi] at h
    exact .inl ⟨rfl, h⟩
  · rw [cell_write_of_ne hj] at h
    exact .inr ⟨hj, h⟩

/-- A list that a container names after a local operation is one that no other container names. -/
theorem not_mem_places_of_local (h : m.Sound) (hlocal : Cell.Local (m.cell i) c) (hne : i ≠ j)
    {place : Nat} (hplace : place ∈ c.rows.places) : place ∉ (m.cell j).rows.places := by
  intro hmem
  rcases hlocal.places place hplace with hold | hnew
  · exact h.apart i j hne place hold hmem
  · exact Nat.not_le_of_lt ((h.cells j).bounded place hmem) hnew.1

theorem Sound.write (h : m.Sound) (hi : i < m.containers.size)
    (hlocal : Cell.Local (m.cell i) c) (hvalues : c.entries.WellFormed) : (m.write i c).Sound := by
  refine ⟨fun j => ?_, fun j k hjk place hj hk => ?_, fun j => ?_⟩
  · by_cases hj : i = j
    · subst hj
      rw [cell_write_self hi]
      exact hlocal.sound (h.cells i)
    · rw [cell_write_of_ne hj]
      exact ⟨fun place hplace =>
        Nat.lt_of_lt_of_le ((h.cells j).bounded place hplace) hlocal.size_le, (h.cells j).distinct⟩
  · rcases mem_places_write hi hj with ⟨hij, hwritten⟩ | ⟨hij, hold⟩
    · rcases mem_places_write hi hk with ⟨hik, -⟩ | ⟨hik, hother⟩
      · exact hjk (hij.symm.trans hik)
      · exact not_mem_places_of_local h hlocal hik hwritten hother
    · rcases mem_places_write hi hk with ⟨-, hwritten⟩ | ⟨-, hother⟩
      · exact not_mem_places_of_local h hlocal hij hwritten hold
      · exact h.apart j k hjk place hold hother
  · by_cases hj : i = j
    · subst hj
      rw [entries, cell_write_self hi]
      exact hvalues
    · rw [entries_write_of_ne h hlocal hj]
      exact h.wellFormed j

end

end Memory

/-! ## Containers -/

/-- Containers that stand in one memory. -/
structure Containers where
  memory : Memory := {}
  sound : memory.Sound := by exact Memory.sound_empty

instance : Inhabited Containers := ⟨{}⟩

namespace Containers

def size (cs : Containers) : Nat := cs.memory.containers.size

/-- What a container holds. -/
def get (cs : Containers) (i : Nat) : Parameters := ⟨cs.memory.entries i, cs.sound.wellFormed i⟩

/-- The containers after an operation that is local to one of them. -/
def write (cs : Containers) (i : Nat) (c : Cell) (hlocal : Cell.Local (cs.memory.cell i) c)
    (hvalues : c.entries.WellFormed) : Containers :=
  if hi : i < cs.size then ⟨cs.memory.write i c, cs.sound.write hi hlocal hvalues⟩ else cs

/-- Edits a container where it stands. -/
def edit (cs : Containers) (i : Nat) (e : Edit) : Containers :=
  cs.write i ((cs.memory.cell i).edit e) (Cell.local_edit (cs.sound.cells i) e)
    (Cell.wellFormed_edit (cs.sound.cells i) (cs.sound.wellFormed i) e)

/-- Edits a container once and again. -/
def editAll (cs : Containers) (i : Nat) (edits : List Edit) : Containers :=
  edits.foldl (fun cs e => cs.edit i e) cs

/-- Removes all rows of a container. -/
def clear (cs : Containers) (i : Nat) : Containers :=
  cs.write i (cs.memory.cell i).clear (Cell.local_clear (cs.sound.cells i)) Entries.wellFormed_nil

/-- Gives a container other rows, with new lists. -/
def set (cs : Containers) (i : Nat) (p : Parameters) : Containers :=
  cs.write i (Cell.allocate (cs.memory.cell i).lists p.entries) (Cell.local_allocate _ _)
    (Cell.wellFormed_allocate _ p.wellFormed)

/-- Adds an empty container, which stands at the position `size`. -/
def addEmpty (cs : Containers) : Containers := ⟨cs.memory.grow, cs.sound.grow⟩

/-- Adds a container with new lists. -/
def add (cs : Containers) (p : Parameters) : Containers := cs.addEmpty.set cs.size p

/-- Adds a copy of a container: each of its names gets a new list of the same values. -/
def copy (cs : Containers) (i : Nat) : Containers := cs.add (cs.get i)

/-- Changes a container as asked, unless the change is refused. -/
def change (cs : Containers) (i : Nat) (c : Change) : Attempt ParameterError Containers Answer :=
  match c.edit? with
  | .ok edit => .done (c.answer (cs.get i)) (cs.edit i edit)
  | .error e => .failed e cs

/-! ## Reading back -/

variable {cs : Containers} {i j : Nat}

theorem size_write {c : Cell} {hlocal : Cell.Local (cs.memory.cell i) c}
    {hvalues : c.entries.WellFormed} : (cs.write i c hlocal hvalues).size = cs.size := by
  unfold write
  split
  · exact Table.size_set _ _ _
  · rfl

theorem get_write_self {c : Cell} {hlocal : Cell.Local (cs.memory.cell i) c}
    {hvalues : c.entries.WellFormed} (hi : i < cs.size) :
    (cs.write i c hlocal hvalues).get i = ⟨c.entries, hvalues⟩ := by
  rw [write, dif_pos hi]
  exact Parameters.ext (congrArg Cell.entries (Memory.cell_write_self hi))

theorem get_write_of_ne {c : Cell} {hlocal : Cell.Local (cs.memory.cell i) c}
    {hvalues : c.entries.WellFormed} (hne : i ≠ j) :
    (cs.write i c hlocal hvalues).get j = cs.get j := by
  unfold write
  split
  · exact Parameters.ext (Memory.entries_write_of_ne cs.sound hlocal hne)
  · rfl

theorem size_edit (e : Edit) : (cs.edit i e).size = cs.size := size_write

theorem get_edit_self (hi : i < cs.size) (e : Edit) : (cs.edit i e).get i = e.apply (cs.get i) :=
  (get_write_self hi).trans
    (Parameters.ext (Cell.entries_edit (cs.sound.cells i) (cs.sound.wellFormed i) e))

theorem get_edit_of_ne (hne : i ≠ j) (e : Edit) : (cs.edit i e).get j = cs.get j :=
  get_write_of_ne hne

theorem size_editAll (edits : List Edit) : (cs.editAll i edits).size = cs.size := by
  induction edits generalizing cs with
  | nil => rfl
  | cons e edits ih => exact ih.trans (size_edit e)

theorem get_editAll_self (hi : i < cs.size) (edits : List Edit) :
    (cs.editAll i edits).get i = edits.foldl Edit.apply (cs.get i) := by
  induction edits generalizing cs with
  | nil => rfl
  | cons e edits ih =>
    have hsize : i < (cs.edit i e).size := (size_edit e).symm ▸ hi
    have hrest := ih hsize
    rw [get_edit_self hi] at hrest
    exact hrest

theorem get_editAll_of_ne (hne : i ≠ j) (edits : List Edit) :
    (cs.editAll i edits).get j = cs.get j := by
  induction edits generalizing cs with
  | nil => rfl
  | cons e edits ih => exact ih.trans (get_edit_of_ne hne e)

theorem size_clear : (cs.clear i).size = cs.size := size_write

theorem get_clear_self (hi : i < cs.size) : (cs.clear i).get i = .empty := get_write_self hi

theorem get_clear_of_ne (hne : i ≠ j) : (cs.clear i).get j = cs.get j := get_write_of_ne hne

theorem size_set (p : Parameters) : (cs.set i p).size = cs.size := size_write

theorem get_set_self (hi : i < cs.size) (p : Parameters) : (cs.set i p).get i = p :=
  (get_write_self hi).trans (Parameters.ext (Cell.entries_allocate _ _))

theorem get_set_of_ne (hne : i ≠ j) (p : Parameters) : (cs.set i p).get j = cs.get j :=
  get_write_of_ne hne

theorem size_addEmpty (cs : Containers) : cs.addEmpty.size = cs.size + 1 := Table.size_add _ _

theorem get_addEmpty (cs : Containers) (i : Nat) : cs.addEmpty.get i = cs.get i :=
  Parameters.ext (congrArg Cell.entries (Memory.cell_grow cs.memory i))

theorem size_add (cs : Containers) (p : Parameters) : (cs.add p).size = cs.size + 1 :=
  (size_set p).trans (size_addEmpty cs)

theorem get_add_size (cs : Containers) (p : Parameters) : (cs.add p).get cs.size = p :=
  get_set_self (size_addEmpty cs ▸ Nat.lt_succ_self _) p

theorem get_add_of_lt (hi : i < cs.size) (p : Parameters) : (cs.add p).get i = cs.get i :=
  (get_set_of_ne (Nat.ne_of_gt hi) p).trans (get_addEmpty cs i)

/-- Beyond the end there are empty containers. -/
theorem get_size (cs : Containers) : cs.get cs.size = .empty := by
  refine Parameters.ext ?_
  show Places.entries (cs.memory.containers.get cs.memory.containers.size) _ = []
  rw [Table.get_size]
  rfl

theorem get_add_empty (cs : Containers) (i : Nat) : (cs.add .empty).get i = cs.get i := by
  by_cases h : cs.size = i
  · subst h
    rw [get_add_size, get_size]
  · exact (get_set_of_ne h _).trans (get_addEmpty cs i)

/-! ## Changes that may be refused -/

section

variable {c : Change}

theorem change_of_ok {e : Edit} (h : c.edit? = .ok e) (cs : Containers) (i : Nat) :
    cs.change i c = .done (c.answer (cs.get i)) (cs.edit i e) := by
  rw [change, h]

theorem change_of_error {e : ParameterError} (h : c.edit? = .error e) (cs : Containers) (i : Nat) :
    cs.change i c = .failed e cs := by
  rw [change, h]

theorem size_change (c : Change) : (cs.change i c).state.size = cs.size := by
  cases h : c.edit? with
  | ok e =>
    rw [change_of_ok h]
    exact size_edit e
  | error e => rw [change_of_error h, Attempt.failed]

/-- A change answers what it answers about parameters. -/
theorem result_change (c : Change) : (cs.change i c).result = ((cs.get i).change c).result := by
  cases h : c.edit? with
  | ok e => rw [change_of_ok h, Parameters.change_of_ok h, Attempt.done, Attempt.done]
  | error e => rw [change_of_error h, Parameters.change_of_error h, Attempt.failed, Attempt.failed]

theorem get_change_self (hi : i < cs.size) (c : Change) :
    (cs.change i c).state.get i = ((cs.get i).change c).state := by
  cases h : c.edit? with
  | ok e =>
    rw [change_of_ok h, Parameters.change_of_ok h]
    exact get_edit_self hi e
  | error e => rw [change_of_error h, Parameters.change_of_error h, Attempt.failed, Attempt.failed]

theorem get_change_of_ne (hne : i ≠ j) (c : Change) : (cs.change i c).state.get j = cs.get j := by
  cases h : c.edit? with
  | ok e =>
    rw [change_of_ok h]
    exact get_edit_of_ne hne e
  | error e => rw [change_of_error h, Attempt.failed]

theorem keepsIfFailed_change (cs : Containers) (i : Nat) (c : Change) :
    (cs.change i c).KeepsIfFailed cs := by
  cases h : c.edit? with
  | ok e =>
    rw [change_of_ok h]
    exact Attempt.keepsIfFailed_done
  | error e =>
    rw [change_of_error h]
    exact Attempt.keepsIfFailed_failed

end

end Containers

end VCardKit
