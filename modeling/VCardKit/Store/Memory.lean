/-
  Containers in memory. A container holds names in order, each with the place of a list of values;
  the lists stand beside the containers, and a list is changed where it stands. Two containers that
  named one list would change together. An operation on one container is local (`Cell.Local`): it
  reaches the lists of this container and new ones, and no others. So a memory in which no list is
  named twice (`Memory.Sound`) stays one, and no other container changes.
-/
import VCardKit.Parameters.Change
import VCardKit.Store.Table

namespace VCardKit

open Parameters (Edit Entries key)

/-- The lists of values by their places. -/
abbrev ValueLists := Table (List String)

/-- The rows of a container: names in order, each with the place of its list. -/
abbrev Places := List (String × Nat)

namespace Places

/-- The rows with the values that stand in the lists. -/
def entries (rows : Places) (lists : ValueLists) : Entries :=
  rows.map fun row => (row.1, lists.get row.2)

/-- The places of the lists. -/
def places (rows : Places) : List Nat := rows.map (·.2)

/-- The place of the list of a name. -/
def place? (k : String) : Places → Option Nat
  | [] => none
  | (n, place) :: rest => if n = k then some place else place? k rest

/-- The rows without a name. -/
def drop (k : String) (rows : Places) : Places := rows.filter fun row => row.1 != k

/-! ## Reading through the places -/

theorem entries_cons (n : String) (place : Nat) (rows : Places) (lists : ValueLists) :
    entries ((n, place) :: rows) lists = (n, lists.get place) :: rows.entries lists := rfl

theorem entries_append (rows rows' : Places) (lists : ValueLists) :
    entries (rows ++ rows') lists = rows.entries lists ++ rows'.entries lists :=
  List.map_append

theorem places_append (rows rows' : Places) :
    places (rows ++ rows') = rows.places ++ rows'.places :=
  List.map_append

theorem entries_congr {rows : Places} {lists lists' : ValueLists}
    (h : ∀ place ∈ rows.places, lists'.get place = lists.get place) :
    rows.entries lists' = rows.entries lists :=
  List.map_congr_left fun row hrow =>
    congrArg (Prod.mk row.1) (h row.2 (List.mem_map_of_mem hrow))

theorem entries_drop (k : String) (rows : Places) (lists : ValueLists) :
    (rows.drop k).entries lists = Entries.drop k (rows.entries lists) := by
  rw [Entries.drop, entries, entries, drop, List.filter_map]
  rfl

theorem mem_places_of_place? {rows : Places} {k : String} {place : Nat}
    (h : rows.place? k = some place) : place ∈ rows.places := by
  induction rows with
  | nil => cases h
  | cons row rows ih =>
    rw [place?] at h
    split at h
    · cases h
      exact List.mem_cons_self
    · exact List.mem_cons_of_mem _ (ih h)

/-- A name without a place is new to the container. -/
theorem put_entries_of_none {rows : Places} {k : String} (h : rows.place? k = none)
    (lists : ValueLists) (v : String) :
    Entries.put k v (rows.entries lists) = rows.entries lists ++ [(k, [v])] := by
  induction rows with
  | nil => rfl
  | cons row rows ih =>
    rw [place?] at h
    split at h
    · cases h
    · next hne =>
      rw [entries_cons, Entries.put, if_neg hne, ih h]
      rfl

theorem removeFirst_entries_of_none {rows : Places} {k : String} (h : rows.place? k = none)
    (lists : ValueLists) (v : String) :
    Entries.removeFirst k v (rows.entries lists) = rows.entries lists := by
  induction rows with
  | nil => rfl
  | cons row rows ih =>
    rw [place?] at h
    split at h
    · cases h
    · next hne => rw [entries_cons, Entries.removeFirst, if_neg hne, ih h]

theorem put_entries_of_some {rows : Places} {k : String} {place : Nat}
    (h : rows.place? k = some place) (lists : ValueLists) (v : String) :
    Entries.put k v (rows.entries lists) =
      Entries.assign k (lists.get place ++ [v]) (rows.entries lists) := by
  induction rows with
  | nil => cases h
  | cons row rows ih =>
    rw [place?] at h
    rw [entries_cons, Entries.put, Entries.assign]
    split at h
    · next hname =>
      cases h
      rw [if_pos hname, if_pos hname]
    · next hname => rw [if_neg hname, if_neg hname, ih h]

theorem removeFirst_entries_of_some {rows : Places} {k v : String} {place : Nat}
    (h : rows.place? k = some place) {lists : ValueLists}
    (hrest : ((lists.get place).erase v).isEmpty = false) :
    Entries.removeFirst k v (rows.entries lists) =
      Entries.assign k ((lists.get place).erase v) (rows.entries lists) := by
  induction rows with
  | nil => cases h
  | cons row rows ih =>
    rw [place?] at h
    rw [entries_cons, Entries.removeFirst, Entries.assign]
    split at h
    · next hname =>
      cases h
      rw [if_pos hname, if_pos hname, hrest]
      rfl
    · next hname => rw [if_neg hname, if_neg hname, ih h]

/-- A name that loses its last value goes, as if all its values had been removed. -/
theorem removeFirst_entries_of_emptied {rows : Places} {k v : String} {place : Nat}
    (h : rows.place? k = some place) {lists : ValueLists}
    (hdistinct : (Entries.names (rows.entries lists)).Nodup)
    (hrest : ((lists.get place).erase v).isEmpty = true) :
    Entries.removeFirst k v (rows.entries lists) = Entries.drop k (rows.entries lists) := by
  induction rows with
  | nil => cases h
  | cons row rows ih =>
    obtain ⟨hfirst, hothers⟩ := List.nodup_cons.1 hdistinct
    rw [place?] at h
    rw [entries_cons, Entries.removeFirst]
    split at h
    · next hname =>
      cases h
      rw [if_pos hname, if_pos hrest]
      refine (List.filter_eq_self.2 fun e he => ?_).symm.trans (List.filter_cons_of_neg ?_).symm
      · rw [bne_iff_ne]
        intro heq
        have hmem : e.1 ∈ Entries.names (entries rows lists) := List.mem_map_of_mem he
        rw [heq, ← hname] at hmem
        exact hfirst hmem
      · simp [hname]
    · next hname =>
      rw [if_neg hname, ih h hothers]
      exact (List.filter_cons_of_pos (by simpa using hname)).symm

/-- A list that is written anew shows under its name, and under no other, since no list is named
twice. -/
theorem entries_set {rows : Places} {lists : ValueLists} {k : String} {place : Nat}
    (h : rows.place? k = some place) (hdistinct : rows.places.Nodup)
    (hplace : place < lists.size) (values : List String) :
    rows.entries (lists.set place values) = Entries.assign k values (rows.entries lists) := by
  induction rows with
  | nil => rfl
  | cons row rows ih =>
    obtain ⟨name, first⟩ := row
    obtain ⟨hfirst, hrest⟩ := List.nodup_cons.1 hdistinct
    rw [place?] at h
    rw [entries_cons, entries_cons, Entries.assign]
    split at h
    · next hname =>
      cases h
      have hsame : entries rows (lists.set place values) = entries rows lists := by
        refine entries_congr fun other hother => Table.get_set_of_ne lists ?_ values
        rintro rfl
        exact hfirst hother
      rw [if_pos hname, Table.get_set_self hplace, hsame]
    · next hname =>
      have hne : place ≠ first := by
        rintro rfl
        exact hfirst (mem_places_of_place? h)
      rw [if_neg hname, Table.get_set_of_ne lists hne, ih h hrest]

end Places

/-! ## Operations on one container -/

/-- The lists, and the rows of one container. -/
structure Cell where
  lists : ValueLists
  rows : Places

namespace Cell

/-- The values of the container. -/
def entries (c : Cell) : Entries := c.rows.entries c.lists

/-- Puts a value at the end of the list of a name; a new name gets a new list. -/
def put (k v : String) (c : Cell) : Cell :=
  match c.rows.place? k with
  | some place => ⟨c.lists.set place (c.lists.get place ++ [v]), c.rows⟩
  | none => ⟨c.lists.add [v], c.rows ++ [(k, c.lists.size)]⟩

/-- Removes the row of a name. -/
def drop (k : String) (c : Cell) : Cell := ⟨c.lists, c.rows.drop k⟩

/-- Removes the first occurrence of a value from the list of a name. A name whose list is left
empty goes. -/
def removeFirst (k v : String) (c : Cell) : Cell :=
  match c.rows.place? k with
  | some place =>
    let rest := (c.lists.get place).erase v
    ⟨c.lists.set place rest, if rest.isEmpty then c.rows.drop k else c.rows⟩
  | none => c

/-- Removes all rows. -/
def clear (c : Cell) : Cell := ⟨c.lists, []⟩

/-- Rows with the given values, each in a new list. -/
def allocate (lists : ValueLists) : Entries → Cell
  | [] => ⟨lists, []⟩
  | (name, values) :: rest =>
    let c := allocate (lists.add values) rest
    ⟨c.lists, (name, lists.size) :: c.rows⟩

/-- The container with an edit. -/
def edit (c : Cell) : Edit → Cell
  | .put name value => c.put (key name) value
  | .replace name none | .removeAll name => c.drop (key name)
  | .replace name (some value) => (c.drop (key name)).put (key name) value
  | .remove name value => c.removeFirst (key name) value

/-! ## What an operation reaches -/

/-- Names lead to lists that are there, and no list is named twice. -/
structure Sound (c : Cell) : Prop where
  bounded : ∀ place ∈ c.rows.places, place < c.lists.size
  distinct : c.rows.places.Nodup

/-- What an operation on a container may make of the lists and the rows: a list that it names was
named before or is new, none is named twice, and lists that were not named before stay. -/
structure Local (c c' : Cell) : Prop where
  size_le : c.lists.size ≤ c'.lists.size
  places : ∀ place ∈ c'.rows.places,
    place ∈ c.rows.places ∨ c.lists.size ≤ place ∧ place < c'.lists.size
  distinct : c'.rows.places.Nodup
  frame : ∀ place, place < c.lists.size → place ∉ c.rows.places →
    c'.lists.get place = c.lists.get place

variable {c : Cell}

theorem Local.sound {c' : Cell} (h : Local c c') (hc : c.Sound) : c'.Sound := by
  refine ⟨fun place hplace => ?_, h.distinct⟩
  rcases h.places place hplace with hold | ⟨-, hnew⟩
  · exact Nat.lt_of_lt_of_le (hc.bounded place hold) h.size_le
  · exact hnew

theorem Local.trans {c₁ c₂ : Cell} (h₁ : Local c c₁) (h₂ : Local c₁ c₂) : Local c c₂ where
  size_le := Nat.le_trans h₁.size_le h₂.size_le
  places place hplace := by
    have hsize := h₁.size_le
    rcases h₂.places place hplace with hold | hnew
    · rcases h₁.places place hold with holder | hnew
      · exact .inl holder
      · exact .inr ⟨hnew.1, Nat.lt_of_lt_of_le hnew.2 h₂.size_le⟩
    · exact .inr ⟨Nat.le_trans hsize hnew.1, hnew.2⟩
  distinct := h₂.distinct
  frame place hlt hplace := by
    have hplace₁ : place ∉ c₁.rows.places := fun hmem =>
      (h₁.places place hmem).elim hplace fun hnew => Nat.not_le_of_lt hlt hnew.1
    rw [h₂.frame place (Nat.lt_of_lt_of_le hlt h₁.size_le) hplace₁, h₁.frame place hlt hplace]

/-- Rows that are taken away leave all lists alone. -/
theorem local_of_sublist (hc : c.Sound) {rows : Places} (h : rows.Sublist c.rows) :
    Local c ⟨c.lists, rows⟩ where
  size_le := Nat.le_refl _
  places _ hplace := .inl ((h.map _).subset hplace)
  distinct := hc.distinct.sublist (h.map _)
  frame _ _ _ := rfl

/-- A named list is written anew, and rows may be taken away. -/
theorem local_set (hc : c.Sound) {k : String} {place : Nat} (h : c.rows.place? k = some place)
    (values : List String) {rows : Places} (hrows : rows.Sublist c.rows) :
    Local c ⟨c.lists.set place values, rows⟩ where
  size_le := Nat.le_of_eq (Table.size_set _ _ _).symm
  places _ hp := .inl ((hrows.map _).subset hp)
  distinct := hc.distinct.sublist (hrows.map _)
  frame other _ hother := by
    refine Table.get_set_of_ne _ ?_ values
    rintro rfl
    exact hother (Places.mem_places_of_place? h)

theorem local_put (hc : c.Sound) (k v : String) : Local c (c.put k v) := by
  unfold put
  split
  · next place h => exact local_set hc h _ (.refl _)
  · have hplaces : Places.places (c.rows ++ [(k, c.lists.size)]) =
        c.rows.places ++ [c.lists.size] := Places.places_append _ _
    have hsize := Table.size_add c.lists [v]
    refine ⟨?_, fun place hplace => ?_, ?_, fun place hlt _ => Table.get_add_of_lt hlt _⟩
    · exact hsize ▸ Nat.le_succ _
    · rw [hplaces] at hplace
      rcases List.mem_append.1 hplace with hold | hnew
      · exact .inl hold
      · rw [List.mem_singleton.1 hnew]
        exact .inr ⟨Nat.le_refl _, hsize ▸ Nat.lt_succ_self _⟩
    · rw [hplaces, List.nodup_append]
      refine ⟨hc.distinct, List.pairwise_singleton _ _, fun p hp q hq => ?_⟩
      rw [List.mem_singleton.1 hq]
      exact Nat.ne_of_lt (hc.bounded p hp)

theorem local_drop (hc : c.Sound) (k : String) : Local c (c.drop k) :=
  local_of_sublist hc List.filter_sublist

theorem local_removeFirst (hc : c.Sound) (k v : String) : Local c (c.removeFirst k v) := by
  unfold removeFirst
  split
  · next place h =>
    refine local_set hc h _ ?_
    split
    · exact List.filter_sublist
    · exact .refl _
  · exact local_of_sublist hc (.refl _)

theorem local_clear (hc : c.Sound) : Local c c.clear := local_of_sublist hc (List.nil_sublist _)

theorem local_edit (hc : c.Sound) (e : Edit) : Local c (c.edit e) := by
  cases e with
  | put name value => exact local_put hc _ value
  | replace name value =>
    cases value with
    | none => exact local_drop hc _
    | some value =>
      have hdrop := local_drop hc (key name)
      exact hdrop.trans (local_put (hdrop.sound hc) _ value)
  | remove name value => exact local_removeFirst hc _ value
  | removeAll name => exact local_drop hc _

/-! ## What the values become -/

theorem entries_put (hc : c.Sound) (k v : String) :
    (c.put k v).entries = Entries.put k v c.entries := by
  unfold put
  split
  · next place h =>
    have hplace := hc.bounded place (Places.mem_places_of_place? h)
    rw [entries, entries, Places.put_entries_of_some h]
    exact Places.entries_set h hc.distinct hplace _
  · next h =>
    have hold : c.rows.entries (c.lists.add [v]) = c.rows.entries c.lists :=
      Places.entries_congr fun place hplace => Table.get_add_of_lt (hc.bounded place hplace) [v]
    have hnew : (c.lists.add [v]).get c.lists.size = [v] := Table.get_add_size _ _
    rw [entries, entries, Places.put_entries_of_none h, Places.entries_append, hold,
      Places.entries_cons, hnew]
    rfl

theorem entries_drop (k : String) (c : Cell) : (c.drop k).entries = Entries.drop k c.entries :=
  Places.entries_drop k c.rows c.lists

theorem entries_removeFirst (hc : c.Sound) (hnames : (Entries.names c.entries).Nodup)
    (k v : String) : (c.removeFirst k v).entries = Entries.removeFirst k v c.entries := by
  unfold removeFirst
  split
  · next place h =>
    have hplace := hc.bounded place (Places.mem_places_of_place? h)
    have hset := Places.entries_set h hc.distinct hplace ((c.lists.get place).erase v)
    simp only [entries]
    split
    · next hrest =>
      rw [Places.removeFirst_entries_of_emptied h hnames hrest, Places.entries_drop, hset,
        Entries.drop_assign]
    · next hrest =>
      rw [hset, Places.removeFirst_entries_of_some h (Bool.eq_false_iff.2 hrest)]
  · next h => exact (Places.removeFirst_entries_of_none h c.lists v).symm

/-- An edit makes of the values what it makes of parameters. -/
theorem entries_edit (hc : c.Sound) (hvalues : c.entries.WellFormed) (e : Edit) :
    (c.edit e).entries = (e.apply ⟨c.entries, hvalues⟩).entries := by
  cases e with
  | put name value => exact entries_put hc _ _
  | replace name value =>
    cases value with
    | none => exact entries_drop _ c
    | some value =>
      have hdrop := local_drop hc (key name)
      exact (entries_put (hdrop.sound hc) _ _).trans
        (congrArg (Entries.put _ _) (entries_drop _ c))
  | remove name value => exact entries_removeFirst hc hvalues.distinct _ _
  | removeAll name => exact entries_drop _ c

theorem wellFormed_edit (hc : c.Sound) (hvalues : c.entries.WellFormed) (e : Edit) :
    (c.edit e).entries.WellFormed := by
  rw [entries_edit hc hvalues]
  exact (e.apply ⟨c.entries, hvalues⟩).wellFormed

/-! ## New lists -/

/-- Allocation names new lists only, none of them twice, and leaves those that are there. -/
structure Allocates (lists : ValueLists) (c : Cell) : Prop where
  size_le : lists.size ≤ c.lists.size
  isNew : ∀ place ∈ c.rows.places, lists.size ≤ place ∧ place < c.lists.size
  distinct : c.rows.places.Nodup
  frame : ∀ place, place < lists.size → c.lists.get place = lists.get place

theorem allocates (lists : ValueLists) (es : Entries) : Allocates lists (allocate lists es) := by
  induction es generalizing lists with
  | nil => exact ⟨Nat.le_refl _, nofun, List.nodup_nil, fun _ _ => rfl⟩
  | cons e es ih =>
    obtain ⟨name, values⟩ := e
    have hrest := ih (lists.add values)
    have hsize : (lists.add values).size = lists.size + 1 := Table.size_add lists values
    have hle : lists.size < (allocate (lists.add values) es).lists.size :=
      Nat.lt_of_lt_of_le (hsize ▸ Nat.lt_succ_self _) hrest.size_le
    refine ⟨Nat.le_of_lt hle, fun place hplace => ?_, ?_, fun place hlt => ?_⟩
    · rcases List.mem_cons.1 hplace with rfl | hlater
      · exact ⟨Nat.le_refl _, hle⟩
      · have hnew := hrest.isNew place hlater
        exact ⟨by omega, hnew.2⟩
    · refine List.nodup_cons.2 ⟨fun hmem => ?_, hrest.distinct⟩
      have hnew := hrest.isNew _ hmem
      simp only at hnew
      omega
    · show (allocate (lists.add values) es).lists.get place = _
      rw [hrest.frame place (by omega), Table.get_add_of_lt hlt]

theorem local_allocate (c : Cell) (es : Entries) : Local c (allocate c.lists es) :=
  have h := allocates c.lists es
  ⟨h.size_le, fun place hplace => .inr (h.isNew place hplace), h.distinct,
    fun place hlt _ => h.frame place hlt⟩

theorem entries_allocate (lists : ValueLists) (es : Entries) :
    (allocate lists es).entries = es := by
  induction es generalizing lists with
  | nil => rfl
  | cons e es ih =>
    obtain ⟨name, values⟩ := e
    have hhead : (allocate (lists.add values) es).lists.get lists.size = values := by
      rw [(allocates _ es).frame _ (by rw [Table.size_add]; omega), Table.get_add_size]
    have htail := ih (lists.add values)
    rw [entries] at htail ⊢
    rw [allocate, Places.entries_cons, hhead, htail]

theorem wellFormed_allocate (lists : ValueLists) {es : Entries} (h : es.WellFormed) :
    (allocate lists es).entries.WellFormed := by
  rwa [entries_allocate]

end Cell

end VCardKit
