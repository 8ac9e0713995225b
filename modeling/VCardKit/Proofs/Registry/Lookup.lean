/-
  Looking into a registry. A look-up goes through the registrations from the oldest on and stops at
  the first that answers; what is found is said here without that order: where at most one element
  answers, it is that one, and where the elements are ordered by a measure, it is the least of those
  that answer.
-/
import VCardKit.Registry
import Mathlib.Data.List.Nodup

namespace VCardKit.Registry

/-! ## Searching lists -/

section

variable {α : Type} {l : List α} {p : α → Bool}

/-- Where at most one element satisfies `p`, it is the one that is found. -/
theorem find?_eq_some_iff_of_unique
    (hu : ∀ a ∈ l, ∀ b ∈ l, p a = true → p b = true → a = b) {a : α} :
    l.find? p = some a ↔ a ∈ l ∧ p a = true := by
  constructor
  · intro h
    exact ⟨List.mem_of_find?_eq_some h, List.find?_some h⟩
  · rintro ⟨ha, hp⟩
    obtain ⟨b, hb⟩ := Option.isSome_iff_exists.1 (List.find?_isSome.2 ⟨a, ha, hp⟩)
    rw [hb, hu b (List.mem_of_find?_eq_some hb) a ha (List.find?_some hb) hp]

/-- Where the elements stand in the order of a measure, the least that satisfies `p` is found. -/
theorem find?_eq_some_iff_of_pairwise {f : α → Nat} (h : l.Pairwise fun a b => f a < f b) {a : α} :
    l.find? p = some a ↔ a ∈ l ∧ p a = true ∧ ∀ b ∈ l, p b = true → f a ≤ f b := by
  induction l with
  | nil => simp
  | cons x rest ih =>
    obtain ⟨hx, hrest⟩ := List.pairwise_cons.1 h
    by_cases hp : p x = true
    · rw [List.find?_cons_of_pos hp, Option.some.injEq]
      constructor
      · rintro rfl
        refine ⟨List.mem_cons_self, hp, fun b hb _ => ?_⟩
        rcases List.mem_cons.1 hb with rfl | hb
        · exact Nat.le_refl _
        · exact Nat.le_of_lt (hx b hb)
      · rintro ⟨ha, -, hleast⟩
        rcases List.mem_cons.1 ha with rfl | ha
        · rfl
        · have hle := hleast x List.mem_cons_self hp
          have hlt := hx a ha
          omega
    · rw [List.find?_cons_of_neg hp, ih hrest]
      constructor
      · rintro ⟨ha, hpa, hleast⟩
        refine ⟨List.mem_cons_of_mem _ ha, hpa, fun b hb hpb => ?_⟩
        rcases List.mem_cons.1 hb with rfl | hb
        · exact absurd hpb hp
        · exact hleast b hb hpb
      · rintro ⟨ha, hpa, hleast⟩
        rcases List.mem_cons.1 ha with rfl | ha
        · exact absurd hpa hp
        · exact ⟨ha, hpa, fun b hb => hleast b (List.mem_cons_of_mem _ hb)⟩

end

/-! ## Names -/

/-- The namespaces that stand for the vocabulary of cards. -/
theorem effectiveNamespace_eq_iff {ns : Option String} :
    effectiveNamespace ns = xCardNamespace ↔
      ns = none ∨ ns = some "" ∨ ns = some xCardNamespace := by
  unfold effectiveNamespace
  split
  · simp
  · simp
  · next ns h => simp [show ns ≠ "" from h]

section

variable {κ : Type} {r : Registry κ}

/-- The names that are taken, that of the oldest registration first. -/
def storedNames (r : Registry κ) : List String := r.entries.map (·.name)

theorem mem_storedNames_of_mem {e : Registration κ} (h : e ∈ r.entries) :
    e.name ∈ r.storedNames :=
  List.mem_map_of_mem h

theorem contains_iff {name : String} :
    r.contains name = true ↔ Text.upper name ∈ r.storedNames := by
  rw [contains, entry?, List.find?_isSome, storedNames, List.mem_map]
  simp only [decide_eq_true_eq]

theorem contains_eq_false_iff {name : String} :
    r.contains name = false ↔ Text.upper name ∉ r.storedNames := by
  rw [← contains_iff, Bool.not_eq_true]

/-- Where no name is taken twice, a registration is found by its name. -/
theorem get?_eq_some_iff (h : r.storedNames.Nodup) {name : String} {k : κ} :
    r.get? name = some k ↔ ∃ e ∈ r.entries, e.name = Text.upper name ∧ e.kind = k := by
  have hunique : ∀ d ∈ r.entries, ∀ e ∈ r.entries, decide (d.name = Text.upper name) = true →
      decide (e.name = Text.upper name) = true → d = e := by
    intro d hd e he hdn hen
    refine List.inj_on_of_nodup_map h hd he ?_
    rw [of_decide_eq_true hdn, of_decide_eq_true hen]
  rw [get?, entry?, Option.map_eq_some_iff]
  constructor
  · rintro ⟨e, he, hk⟩
    obtain ⟨hmem, hname⟩ := (find?_eq_some_iff_of_unique hunique).1 he
    exact ⟨e, hmem, of_decide_eq_true hname, hk⟩
  · rintro ⟨e, hmem, hname, hk⟩
    exact ⟨e, (find?_eq_some_iff_of_unique hunique).2 ⟨hmem, decide_eq_true hname⟩, hk⟩

/-- What is found by an XML name is a registration that bears it. -/
theorem exists_of_find?_eq_some {ns : Option String} {localName : String} {k : κ}
    (h : r.find? ns localName = some k) :
    ∃ e ∈ r.entries, e.qualifiedName = (effectiveNamespace ns, localName) ∧ e.kind = k := by
  obtain ⟨e, he, hk⟩ := Option.map_eq_some_iff.1 h
  have hname := List.find?_some he
  exact ⟨e, List.mem_of_find?_eq_some he, of_decide_eq_true hname, hk⟩

/-- Where the registrations stand in the order of a measure, the least that bears an XML name is
found by it. -/
theorem find?_eq_some_iff {age : Registration κ → Nat}
    (h : r.entries.Pairwise fun d e => age d < age e) {ns : Option String} {localName : String}
    {k : κ} :
    r.find? ns localName = some k ↔ ∃ e ∈ r.entries,
      e.qualifiedName = (effectiveNamespace ns, localName) ∧ e.kind = k ∧
        ∀ d ∈ r.entries, d.qualifiedName = e.qualifiedName → age e ≤ age d := by
  rw [find?, Option.map_eq_some_iff]
  simp only [find?_eq_some_iff_of_pairwise h, decide_eq_true_eq]
  constructor
  · rintro ⟨e, ⟨hmem, hname, hleast⟩, hk⟩
    exact ⟨e, hmem, hname, hk, fun d hd hdn => hleast d hd (hdn.trans hname)⟩
  · rintro ⟨e, hmem, hname, hk, hleast⟩
    exact ⟨e, ⟨hmem, hname, fun d hd hdn => hleast d hd (hdn.trans hname.symm)⟩, hk⟩

end

end VCardKit.Registry
