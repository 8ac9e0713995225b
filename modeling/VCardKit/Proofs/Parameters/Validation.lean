/-
  Which warnings a container gives. Each row gives its own, whatever the other rows are, and each
  value of a row gives its own behind those of the values before it. So the warnings of a container
  are those of its front followed by those of its back, and one value more adds warnings about that
  value and, where the name is new, about that name (`neverMasks`); no warning hides another, and
  none moves.
-/
import VCardKit.Parameters.Validation
import VCardKit.Proofs.Parameters.Multimap

namespace VCardKit.Parameters

variable {c : Parameters} {version : Version}

/-! ## A part of the rows -/

namespace Entries

/-- The rows of some of the names, in the order that they have. -/
def only (kept : List String) (es : Entries) : Entries := es.filter fun e => kept.contains e.1

variable {kept : List String} {es front back : Entries}

/-- A split of the names is a split of the rows. -/
theorem exists_of_names_eq_append {ns ns' : List String} (h : names es = ns ++ ns') :
    ∃ front back, es = front ++ back ∧ names front = ns ∧ names back = ns' :=
  List.map_eq_append_iff.1 h

theorem only_append (kept : List String) (es es' : Entries) :
    only kept (es ++ es') = only kept es ++ only kept es' :=
  List.filter_append es es'

theorem only_eq_self (h : ∀ n ∈ names es, n ∈ kept) : only kept es = es :=
  List.filter_eq_self.2 fun _ he => List.contains_iff_mem.2 (h _ (List.mem_map_of_mem he))

theorem only_eq_nil (h : ∀ n ∈ names es, n ∉ kept) : only kept es = [] :=
  List.filter_eq_nil_iff.2 fun _ he hkept =>
    h _ (List.mem_map_of_mem he) (List.contains_iff_mem.1 hkept)

/-- With distinct names, those of the front and of the back tell the two apart. -/
theorem only_names (h : (names front ++ names back).Nodup) :
    only (names front) (front ++ back) = front ∧ only (names back) (front ++ back) = back := by
  obtain ⟨-, -, hne⟩ := List.nodup_append.1 h
  rw [only_append, only_append]
  constructor
  · rw [only_eq_self fun _ hn => hn, only_eq_nil fun n hn hf => hne n hf n hn rfl,
      List.append_nil]
  · rw [only_eq_nil fun n hn hb => hne n hn n hb rfl, only_eq_self fun _ hn => hn,
      List.nil_append]

end Entries

/-- The container that holds the rows of some of the names only, in the order that they have. -/
def only (c : Parameters) (kept : List String) : Parameters :=
  ⟨Entries.only kept c.entries, c.wellFormed.sublist List.filter_sublist⟩

/-- The two parts of a container have its rows between them, and no others. -/
theorem entries_only_split {front back : List String} (h : c.names = front ++ back) :
    c.entries = (c.only front).entries ++ (c.only back).entries ∧
      (c.only front).names = front ∧ (c.only back).names = back := by
  obtain ⟨es, es', hes, rfl, rfl⟩ := Entries.exists_of_names_eq_append h
  have hdistinct : (Entries.names es ++ Entries.names es').Nodup := by
    have hnames := c.wellFormed.distinct
    rwa [← names, h] at hnames
  have honly := Entries.only_names hdistinct
  rw [← hes] at honly
  have hfront : (c.only (Entries.names es)).entries = es := honly.1
  have hback : (c.only (Entries.names es')).entries = es' := honly.2
  refine ⟨?_, congrArg Entries.names hfront, congrArg Entries.names hback⟩
  rw [hfront, hback, hes]

/-! ## Warnings row by row -/

/-- A value more in a row. -/
theorem entryWarnings_append (version : Version) (n : String) (vs : List String) (v : String) :
    entryWarnings version (n, vs ++ [v]) =
      entryWarnings version (n, vs) ++ valueWarnings version n v := by
  rw [entryWarnings, entryWarnings, List.flatMap_append, List.flatMap_singleton, List.append_assoc]

/-- A row of one value. -/
theorem entryWarnings_singleton (version : Version) (n v : String) :
    entryWarnings version (n, [v]) = nameWarnings version n ++ valueWarnings version n v := by
  rw [entryWarnings, List.flatMap_singleton]

/-! ## Warnings of a container -/

/-- A front part and a back part give their warnings one after the other. -/
theorem validate_split (version : Version) {front back : List String}
    (h : c.names = front ++ back) :
    c.validate version = (c.only front).validate version ++ (c.only back).validate version := by
  obtain ⟨hrows, -, -⟩ := entries_only_split h
  simp only [validate]
  rw [hrows, List.flatMap_append]

theorem validate_put (c : Parameters) (version : Version) (name value : String) :
    (c.put name value).validate version =
      (Entries.put (key name) value c.entries).flatMap (entryWarnings version) := rfl

/-- One value more of a stored name adds its own warnings, behind those of the name and of its
earlier values and before those of the later names. -/
theorem validate_put_stored (version : Version) {name : String} (value : String)
    {front back : List String} (h : c.names = front ++ key name :: back) :
    (c.put name value).validate version =
      (c.only (front ++ [key name])).validate version ++
        (valueWarnings version (key name) value ++ (c.only back).validate version) := by
  have hnot : key name ∉ front := by
    have hnames := c.wellFormed.distinct
    rw [← names, h] at hnames
    exact fun hf => (List.nodup_append.1 hnames).2.2 _ hf _ List.mem_cons_self rfl
  rw [← List.singleton_append, ← List.append_assoc] at h
  obtain ⟨hrows, hfront, -⟩ := entries_only_split h
  obtain ⟨es, last, hes, rfl, hlast⟩ := Entries.exists_of_names_eq_append hfront
  obtain ⟨⟨n, vs⟩, rfl, rfl⟩ := List.map_eq_singleton_iff.1 hlast
  rw [validate_put, hrows]
  simp only [validate]
  rw [hes, List.append_assoc, List.singleton_append, Entries.put_append_row hnot,
    List.flatMap_append, List.flatMap_append, List.flatMap_cons, List.flatMap_singleton,
    entryWarnings_append]
  simp only [List.append_assoc]

/-- The first value of a new name adds the warnings about the name and its own, at the end. -/
theorem validate_put_new (version : Version) {name : String} (value : String)
    (h : key name ∉ c.names) :
    (c.put name value).validate version =
      c.validate version ++
        (nameWarnings version (key name) ++ valueWarnings version (key name) value) := by
  rw [validate_put, Entries.put_of_not_mem h, List.flatMap_append, List.flatMap_singleton,
    entryWarnings_singleton, validate]

/-- No warning of a container hides another, or moves: of a split of its names, the front and the
back give theirs one after the other, and one value more adds its own between those of the names up
to its own and those of the names behind. -/
structure NeverMasks (c : Parameters) (version : Version) : Prop where
  split : ∀ front back, c.names = front ++ back →
    c.validate version = (c.only front).validate version ++ (c.only back).validate version
  put_stored : ∀ name value front back, c.names = front ++ key name :: back →
    (c.put name value).validate version =
      (c.only (front ++ [key name])).validate version ++
        (valueWarnings version (key name) value ++ (c.only back).validate version)
  put_new : ∀ name value, key name ∉ c.names →
    (c.put name value).validate version =
      c.validate version ++
        (nameWarnings version (key name) ++ valueWarnings version (key name) value)
  put_keeps : ∀ name value, (c.validate version).Sublist ((c.put name value).validate version)

/-- Every earlier warning stays, in its order. -/
theorem sublist_validate_put (c : Parameters) (version : Version) (name value : String) :
    (c.validate version).Sublist ((c.put name value).validate version) := by
  by_cases h : key name ∈ c.names
  · obtain ⟨front, back, hsplit⟩ := List.append_of_mem h
    rw [validate_put_stored version value hsplit]
    rw [← List.singleton_append, ← List.append_assoc] at hsplit
    rw [validate_split version hsplit]
    exact (List.Sublist.refl _).append (List.sublist_append_right _ _)
  · rw [validate_put_new version value h]
    exact List.sublist_append_left _ _

/-- **Validation never masks a problem.** The warnings of a container are those of any front part of
its names followed by those of the rest, and one value more leaves them as they are and inserts its
own: with those about the name at the end where the name is new, otherwise behind those of the
name's earlier values. -/
theorem neverMasks (c : Parameters) (version : Version) : NeverMasks c version where
  split _ _ h := validate_split version h
  put_stored _ value _ _ h := validate_put_stored version value h
  put_new _ value h := validate_put_new version value h
  put_keeps name value := sublist_validate_put c version name value

end VCardKit.Parameters
