/-
  Values that can be written. A value fits if its integers are short enough and if it nests no
  deeper than a number says (`Value.Fits`); such a value has a text wherever there is room for that
  many containers. What a table holds is under its keys, so a change of a table at the end of a path
  keeps the property if what is put in fits beside the path, each name of which enters at most an
  array and one of its tables (`Rows.KeepsFits`).
-/
import VCardKit.Toml.Value

namespace VCardKit.Toml

/-- There is room inside any containers, up to a number of them. -/
def Room.Holds {α : Type} (room : Room α) (deep : Nat) : Prop :=
  ∀ opened x, opened.length ≤ deep → room opened x = true

/-- A number of frames is enough for any containers of which all together take no more. -/
theorem Room.holds_ofFrames {α : Type} {frames most deep : Nat} {taken : Container → Nat}
    (htaken : ∀ c, taken c ≤ most) (h : deep * most ≤ frames) :
    (ofFrames frames taken : Room α).Holds deep := by
  intro opened _ hopened
  have hsum : opened.foldr (fun kind used => taken kind + used) 0 ≤ opened.length * most := by
    clear hopened
    induction opened with
    | nil => exact Nat.zero_le _
    | cons c opened ih =>
      rw [List.foldr_cons, List.length_cons, Nat.succ_mul, Nat.add_comm]
      exact Nat.add_le_add ih (htaken c)
  have hmost := Nat.mul_le_mul_right most hopened
  exact decide_eq_true (Nat.le_trans hsum (Nat.le_trans hmost h))

namespace Value

/-- A value that nests at most so deep, and whose integers have few enough digits to be written. -/
inductive Fits : Nat → Value → Prop
  | text {n : Nat} {s : String} : Fits n (text s)
  | integer {n : Nat} {value : Int} (h : Decimal.isWritable value = true) : Fits n (integer value)
  | float {n : Nat} {x : Float} : Fits n (float x)
  | boolean {n : Nat} {b : Bool} : Fits n (boolean b)
  | moment {n : Nat} {m : Moment} : Fits n (moment m)
  | array {n : Nat} {items : List Value} (h : ∀ v ∈ items, Fits n v) : Fits (n + 1) (array items)
  | table {n : Nat} {rows : List (String × Value)} (h : ∀ row ∈ rows, Fits n row.2) :
    Fits (n + 1) (table rows)

theorem Fits.mono {n m : Nat} {v : Value} (h : Fits n v) (hnm : n ≤ m) : Fits m v := by
  induction h generalizing m with
  | text => exact .text
  | integer h => exact .integer h
  | float => exact .float
  | boolean => exact .boolean
  | moment => exact .moment
  | array _ ih =>
    obtain ⟨m, rfl⟩ := Nat.exists_eq_add_of_lt (Nat.lt_of_succ_le hnm)
    exact .array fun v hv => ih v hv (Nat.le_add_right _ m)
  | table _ ih =>
    obtain ⟨m, rfl⟩ := Nat.exists_eq_add_of_lt (Nat.lt_of_succ_le hnm)
    exact .table fun row hrow => ih row hrow (Nat.le_add_right _ m)

theorem Fits.items {n : Nat} {items : List Value} (h : (Value.array items).Fits (n + 1)) :
    ∀ v ∈ items, v.Fits n := by
  cases h with
  | array h => exact h

/-! ## Texts -/

section

variable {room : Room Value} {opened : List Container}

theorem faultIn?_eq_none {items : List Value} (h : ∀ v ∈ items, fault? room opened v = none) :
    faultIn? room opened items = none := by
  induction items with
  | nil => rfl
  | cons v items ih =>
    obtain ⟨hv, hitems⟩ := List.forall_mem_cons.1 h
    rw [faultIn?, hv, ih hitems]
    rfl

theorem faultInRows?_eq_none {rows : Rows} (h : ∀ row ∈ rows, fault? room opened row.2 = none) :
    faultInRows? room opened rows = none := by
  induction rows with
  | nil => rfl
  | cons row rows ih =>
    obtain ⟨hv, hrows⟩ := List.forall_mem_cons.1 h
    rw [faultInRows?, hv, ih hrows]
    rfl

/-- Nothing is wrong with a value that fits beside the containers that are open. -/
theorem Fits.fault?_eq_none {deep n : Nat} (hroom : room.Holds deep) {v : Value} (h : Fits n v)
    (hdeep : opened.length + n ≤ deep) : fault? room opened v = none := by
  induction h generalizing opened with
  | integer h =>
    rw [fault?, hroom opened _ (by omega)]
    simp only [Bool.not_true, Bool.false_eq_true, if_false, h, if_true]
  | array _ ih =>
    rw [fault?, hroom opened _ (by omega)]
    refine faultIn?_eq_none fun v hv => ih v hv ?_
    rw [List.length_cons]
    omega
  | table _ ih =>
    rw [fault?, hroom opened _ (by omega)]
    refine faultInRows?_eq_none fun row hrow => ih row hrow ?_
    rw [List.length_cons]
    omega
  | _ =>
    unfold fault?
    rw [hroom opened _ (by omega)]
    rfl

theorem toText_eq_ok {v : Value} {s : String} (h : v.toText room = .ok s) : s = v.asText := by
  unfold toText at h
  split at h
  · exact (Except.ok.inj h).symm
  · exact (Except.ok.inj h).symm
  · split at h
    · exact (Except.ok.inj h).symm
    · cases h

theorem Fits.toText_eq {n : Nat} (hroom : room.Holds n) {v : Value} (h : Fits n v) :
    v.toText room = .ok v.asText := by
  unfold toText
  split
  · rfl
  · rfl
  · rw [h.fault?_eq_none hroom (by simp)]

end

end Value

/-! ## Tables -/

/-- Rows whose values fit. -/
def Rows.Fits (n : Nat) (rows : Rows) : Prop := ∀ row ∈ rows, row.2.Fits n

theorem Value.Fits.rows {n : Nat} {rows : Rows} (h : (Value.table rows).Fits (n + 1)) :
    rows.Fits n := by
  cases h with
  | table h => exact h

namespace Rows

theorem Fits.of_lookup {n : Nat} {rows : Rows} (h : rows.Fits n) {key : String} {v : Value}
    (hv : rows.lookup key = some v) : v.Fits n := by
  obtain ⟨front, behind, rfl, -⟩ := List.lookup_eq_some_iff.1 hv
  exact h (key, v) (List.mem_append_right front List.mem_cons_self)

theorem fits_nil {n : Nat} : Rows.Fits n [] := nofun

theorem Fits.append_row {n : Nat} {rows : Rows} (h : rows.Fits n) (key : String) {v : Value}
    (hv : v.Fits n) : Rows.Fits n (rows ++ [(key, v)]) := by
  intro row hrow
  rcases List.mem_append.1 hrow with hrow | hrow
  · exact h row hrow
  · cases List.mem_singleton.1 hrow
    exact hv

theorem Fits.replace {n : Nat} {rows : Rows} (h : rows.Fits n) (key : String) {v : Value}
    (hv : v.Fits n) : (Rows.replace key v rows).Fits n := by
  intro row hrow
  obtain ⟨row', hrow', rfl⟩ := List.mem_map.1 hrow
  split
  · exact hv
  · exact h row' hrow'

/-- A change of rows, where it does anything, leaves rows that fit, however deep that may be from a
number on. -/
def KeepsFits (least : Nat) (f : Rows → Option Rows) : Prop :=
  ∀ n, least ≤ n → ∀ rows rows', Rows.Fits n rows → f rows = some rows' → Rows.Fits n rows'

/-- What stands on the way is put back around the changed table, beside what stood there. -/
theorem keepsFits_modifyAt? {least : Nat} {f : Rows → Option Rows} (hf : KeepsFits least f)
    (path : List String) : KeepsFits (2 * path.length + least) (modifyAt? path f) := by
  induction path with
  | nil =>
    intro n hn
    exact hf n (by simpa using hn)
  | cons key path ih =>
    intro n hn rows rows' hrows h
    rw [List.length_cons] at hn
    obtain ⟨n, rfl⟩ : ∃ k, n = k + 2 := ⟨n - 2, by omega⟩
    unfold modifyAt? at h
    split at h
    · obtain ⟨inner, hinner, rfl⟩ := Option.map_eq_some_iff.1 h
      exact hrows.append_row key (.table (ih (n + 1) (by omega) _ _ fits_nil hinner))
    · next table hlookup =>
      obtain ⟨inner, hinner, rfl⟩ := Option.map_eq_some_iff.1 h
      have htable := (hrows.of_lookup hlookup).rows
      exact hrows.replace key (.table (ih (n + 1) (by omega) _ _ htable hinner))
    · next items hlookup =>
      have hitems := (hrows.of_lookup hlookup).items
      split at h
      · next table hlast =>
        obtain ⟨inner, hinner, rfl⟩ := Option.map_eq_some_iff.1 h
        have htable := (hitems _ (List.mem_of_getLast? hlast)).rows
        refine hrows.replace key (.array fun v hv => ?_)
        rcases List.mem_append.1 hv with hv | hv
        · exact hitems v (List.dropLast_subset items hv)
        · rw [List.mem_singleton.1 hv]
          exact .table (ih n (by omega) _ _ htable hinner)
      · cases h
    · cases h

theorem keepsFits_some : KeepsFits 0 some := by
  rintro n - rows _ hrows ⟨⟩
  exact hrows

theorem keepsFits_add? (key : String) {n : Nat} {v : Value} (hv : v.Fits n) :
    KeepsFits n (add? key v) := by
  intro m hm rows rows' hrows h
  unfold add? at h
  split at h
  · cases h
  · cases h
    exact hrows.append_row key (hv.mono hm)

theorem keepsFits_put? (path : List String) {n : Nat} {v : Value} (hv : v.Fits n) :
    KeepsFits (2 * (path.length - 1) + n) (put? path v) := by
  have h := keepsFits_modifyAt? (keepsFits_add? (path.getLastD "") hv) path.dropLast
  rwa [List.length_dropLast] at h

theorem keepsFits_extend? (key : String) : KeepsFits 2 (extend? key) := by
  intro n hn rows rows' hrows h
  obtain ⟨n, rfl⟩ : ∃ k, n = k + 2 := ⟨n - 2, by omega⟩
  have hempty : (Value.table []).Fits (n + 1) := .table nofun
  unfold extend? at h
  split at h
  · cases h
    exact hrows.append_row key (.array (List.forall_mem_singleton.2 hempty))
  · next items hlookup =>
    cases h
    have hitems := (hrows.of_lookup hlookup).items
    refine hrows.replace key (.array fun v hv => ?_)
    rcases List.mem_append.1 hv with hv | hv
    · exact hitems v hv
    · rw [List.mem_singleton.1 hv]
      exact hempty
  · cases h

end Rows

end VCardKit.Toml
