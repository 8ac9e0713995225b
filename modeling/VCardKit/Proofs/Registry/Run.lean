/-
  Registries over whole runs. A run is a list of calls, the latest first, that starts from an empty
  registry. How old a name is, is said without the order of the registrations: by the number of
  calls that had been made when the name was free for the last time (`lastFree`). A replacement does
  not change it, and a name that was given up and is taken again is as young as one that is new. The
  registrations stand in the order of this age, so the oldest that bears an XML name is found by it.
-/
import VCardKit.Proofs.Registry.Call
import VCardKit.Proofs.Text.Case

namespace VCardKit.Registry

variable {κ : Type} [Registrable κ]

/-- The registry after the calls, the latest of which stands first. -/
def run : List (Call κ) → Registry κ
  | [] => {}
  | call :: earlier => (run earlier).after call

/-- The number of calls that had been made when a name was free for the last time. -/
def lastFree : List (Call κ) → String → Nat
  | [], _ => 0
  | call :: earlier, name =>
    if (run (call :: earlier)).contains name then lastFree earlier name else earlier.length + 1

/-! ## Registrations -/

/-- Every registration is made by a call, and shows what a new property of its kind shows. -/
theorem mem_entries_run {calls : List (Call κ)} {e : Registration κ}
    (h : e ∈ (run calls).entries) :
    ∃ k override s, Call.register k override ∈ calls ∧ Registrable.sample? k = some s ∧
      e = registration k s := by
  induction calls with
  | nil => cases h
  | cons call earlier ih =>
    rcases mem_entries_after h with h | ⟨k, override, s, hcall, hs, he⟩
    · obtain ⟨k, override, s, hmem, hs, he⟩ := ih h
      exact ⟨k, override, s, List.mem_cons_of_mem _ hmem, hs, he⟩
    · subst hcall
      exact ⟨k, override, s, List.mem_cons_self, hs, he⟩

/-- Taken names are in upper case, so a taken name finds itself. -/
theorem upper_of_mem_storedNames {calls : List (Call κ)} {name : String}
    (h : name ∈ (run calls).storedNames) : Text.upper name = name := by
  obtain ⟨e, he, rfl⟩ := List.mem_map.1 h
  obtain ⟨k, _, s, -, -, rfl⟩ := mem_entries_run he
  exact Text.upper_upper s.typeName

theorem contains_of_mem_storedNames {calls : List (Call κ)} {name : String}
    (h : name ∈ (run calls).storedNames) : (run calls).contains name = true := by
  rw [contains_iff, upper_of_mem_storedNames h]
  exact h

/-! ## Age -/

section

variable {calls : List (Call κ)} {call : Call κ} {name : String}

/-- While a name is taken, it keeps its age. -/
theorem lastFree_cons_of_taken (h : (run (call :: calls)).contains name = true) :
    lastFree (call :: calls) name = lastFree calls name := by
  rw [lastFree, if_pos h]

theorem lastFree_of_free (h : (run calls).contains name = false) :
    lastFree calls name = calls.length := by
  cases calls with
  | nil => rfl
  | cons call earlier =>
    rw [lastFree, if_neg (Bool.eq_false_iff.1 h)]
    rfl

theorem lastFree_le_length (calls : List (Call κ)) (name : String) :
    lastFree calls name ≤ calls.length := by
  induction calls with
  | nil => exact Nat.le_refl 0
  | cons call earlier ih =>
    rw [lastFree, List.length_cons]
    split
    · omega
    · omega

theorem lastFree_lt_length_of_taken (h : (run calls).contains name = true) :
    lastFree calls name < calls.length := by
  cases calls with
  | nil => cases h
  | cons call earlier =>
    have hle := lastFree_le_length earlier name
    rw [lastFree_cons_of_taken h, List.length_cons]
    omega

/-- A name that becomes taken is younger than all names that were taken before. -/
theorem lastFree_lt_of_free {other : String} (hother : (run calls).contains other = true)
    (h : (run calls).contains name = false) : lastFree calls other < lastFree calls name := by
  rw [lastFree_of_free h]
  exact lastFree_lt_length_of_taken hother

end

/-- The registrations stand in the order of their age. -/
theorem pairwise_lastFree (calls : List (Call κ)) :
    (run calls).storedNames.Pairwise fun m n => lastFree calls m < lastFree calls n := by
  induction calls with
  | nil => exact List.Pairwise.nil
  | cons call earlier ih =>
    have hkeep : ∀ n ∈ (run (call :: earlier)).storedNames,
        lastFree (call :: earlier) n = lastFree earlier n := fun n hn =>
      lastFree_cons_of_taken (contains_of_mem_storedNames hn)
    have hearlier : (run (call :: earlier)).storedNames.Pairwise fun m n =>
        lastFree earlier m < lastFree earlier n := by
      rcases (run earlier).storedNames_after call with hsub | ⟨name, hfree, hnames⟩
      · exact ih.sublist hsub
      · have hmem : name ∈ (run (call :: earlier)).storedNames := by
          rw [run, hnames]
          exact List.mem_append_right _ (List.mem_singleton.2 rfl)
        have hname : Text.upper name = name := upper_of_mem_storedNames hmem
        have hcontains : (run earlier).contains name = false := by
          rw [contains_eq_false_iff, hname]
          exact hfree
        rw [run, hnames, List.pairwise_append]
        refine ⟨ih, List.pairwise_singleton _ _, fun m hm n hn => ?_⟩
        rw [List.mem_singleton.1 hn]
        exact lastFree_lt_of_free (contains_of_mem_storedNames hm) hcontains
    refine hearlier.imp_of_mem fun {m n} hm hn hlt => ?_
    rw [hkeep m hm, hkeep n hn]
    exact hlt

/-- No name is taken twice. -/
theorem nodup_storedNames (calls : List (Call κ)) : (run calls).storedNames.Nodup := by
  refine (pairwise_lastFree calls).imp fun {m n} hlt heq => ?_
  rw [heq] at hlt
  exact Nat.lt_irrefl _ hlt

/-- One name at most becomes taken by a call. -/
theorem mem_storedNames_of_ne {calls : List (Call κ)} {call : Call κ} {name other : String}
    (hfree : name ∉ (run calls).storedNames) (hname : name ∈ (run (call :: calls)).storedNames)
    (hother : other ∈ (run (call :: calls)).storedNames) (hne : other ≠ name) :
    other ∈ (run calls).storedNames := by
  rcases (run calls).storedNames_after call with hsub | ⟨new, -, hnames⟩
  · exact hsub.subset hother
  · rw [run, hnames, List.mem_append, List.mem_singleton] at hname hother
    have hnew : name = new := hname.resolve_left hfree
    rw [← hnew] at hother
    exact hother.resolve_right hne

/-! ## Runs -/

/-- What a registry answers, given how old its names are. -/
structure AnswersByAge (age : String → Nat) (r : Registry κ) : Prop where
  names_nodup : r.storedNames.Nodup
  sampled : ∀ e ∈ r.entries, ∃ s, Registrable.sample? e.kind = some s ∧
    e.name = Text.upper s.typeName ∧
      e.qualifiedName = s.qualifiedName.getD (xCardNamespace, Text.lower s.typeName)
  get?_iff : ∀ name k, r.get? name = some k ↔
    ∃ e ∈ r.entries, e.name = Text.upper name ∧ e.kind = k
  find?_iff : ∀ ns localName k, r.find? ns localName = some k ↔
    ∃ e ∈ r.entries, e.qualifiedName = (effectiveNamespace ns, localName) ∧ e.kind = k ∧
      ∀ d ∈ r.entries, d.qualifiedName = e.qualifiedName → age e.name ≤ age d.name

theorem answersByAge (calls : List (Call κ)) : AnswersByAge (lastFree calls) (run calls) where
  names_nodup := nodup_storedNames calls
  sampled := by
    intro e he
    obtain ⟨k, _, s, -, hs, rfl⟩ := mem_entries_run he
    exact ⟨s, hs, rfl, rfl⟩
  get?_iff name k := get?_eq_some_iff (nodup_storedNames calls)
  find?_iff := by
    intro ns localName k
    have hage := pairwise_lastFree calls
    rw [storedNames, List.pairwise_map] at hage
    exact find?_eq_some_iff hage

/-- What a call answers and what it makes of the look-ups. -/
structure ChangesAsRegistry (r : Registry κ) : Prop where
  refused_iff : ∀ k override e, (r.register k override).result = .error e ↔
    (Registrable.sample? k = none ∧ e = .needsArguments (Registrable.label k)) ∨
      ∃ s, Registrable.sample? k = some s ∧ r.contains s.typeName = true ∧ override = false ∧
        e = .nameTaken (Text.upper s.typeName)
  after_refused : ∀ k override e, (r.register k override).result = .error e →
    r.after (.register k override) = r
  get?_registered : ∀ k override, (r.register k override).result = .ok () →
    ∃ s, Registrable.sample? k = some s ∧ ∀ name, (r.after (.register k override)).get? name =
      if Text.upper name = Text.upper s.typeName then some k else r.get? name
  found_unregistered : ∀ given, (r.unregister given).1 = r.contains given
  get?_unregistered : ∀ given name, (r.after (.unregister given)).get? name =
    if Text.upper name = Text.upper given then none else r.get? name

theorem changesAsRegistry (r : Registry κ) : ChangesAsRegistry r where
  refused_iff _ _ _ := result_register_eq_error_iff
  after_refused := keepsIfFailed_register r
  get?_registered := by
    intro k override h
    obtain ⟨s, hs, -, hstate⟩ := result_register_eq_ok_iff.1 h
    refine ⟨s, hs, fun name => ?_⟩
    rw [after, hstate]
    exact get?_place (registration k s) r name
  found_unregistered _ := rfl
  get?_unregistered := get?_unregister r

/-- How a call changes the age of names: a name that stays taken keeps it, also if its registration
is replaced; a name that becomes taken is younger than all others. -/
structure KeepsAges (calls : List (Call κ)) : Prop where
  kept : ∀ call name, (run calls).contains name = true →
    (run (call :: calls)).contains name = true → lastFree (call :: calls) name = lastFree calls name
  youngest : ∀ call name, (run calls).contains name = false →
    (run (call :: calls)).contains name = true → ∀ e ∈ (run (call :: calls)).entries,
      e.name ≠ Text.upper name → lastFree (call :: calls) e.name < lastFree (call :: calls) name

theorem keepsAges (calls : List (Call κ)) : KeepsAges calls where
  kept _ _ _ h := lastFree_cons_of_taken h
  youngest := by
    intro call name hfree htaken e he hne
    have hmem : e.name ∈ (run (call :: calls)).storedNames := mem_storedNames_of_mem he
    have hbefore : e.name ∈ (run calls).storedNames :=
      mem_storedNames_of_ne (contains_eq_false_iff.1 hfree) (contains_iff.1 htaken) hmem hne
    rw [lastFree_cons_of_taken htaken,
      lastFree_cons_of_taken (contains_of_mem_storedNames hmem)]
    exact lastFree_lt_of_free (contains_of_mem_storedNames hbefore) hfree

/-- **A registry answers by name and by age over whole runs.** Names are taken once and belong to
what new properties show; a name leads to its registration and an XML name to the oldest one that
bears it; a registration that is refused, for one of two causes, changes nothing, and every other
call changes what one name leads to and no other. -/
theorem run_answersByAge (calls : List (Call κ)) :
    AnswersByAge (lastFree calls) (run calls) ∧ ChangesAsRegistry (run calls) ∧ KeepsAges calls :=
  ⟨answersByAge calls, changesAsRegistry (run calls), keepsAges calls⟩

/-- The kind that was given up and registered again is the younger of two with one XML name. -/
example : (run [.register .namespaced false, .unregister "x-namespaced",
    .register .namespacedTwin false, .register .namespaced false]).find?
      (some "http://example.com/ns") "thing" = some Kind.namespacedTwin := by decide +kernel

end VCardKit.Registry
