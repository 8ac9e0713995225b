/-
  What a call does to a registry. A registration is refused for one of two causes, and then changes
  nothing; otherwise it takes the place of the registration of the same name, or goes last. So the
  taken names keep their order, but for one that becomes free or one that becomes taken
  (`storedNames_after`), and only the look-up of the name that the call is about may change.
-/
import VCardKit.Proofs.Registry.Lookup

namespace VCardKit.Registry

variable {κ : Type}

/-! ## Placing a registration -/

theorem map_name_place (e : Registration κ) (l : List (Registration κ)) :
    (place e l).map (·.name) =
      if e.name ∈ l.map (·.name) then l.map (·.name) else l.map (·.name) ++ [e.name] := by
  induction l with
  | nil => simp [place]
  | cons d rest ih =>
    by_cases h : d.name = e.name
    · simp [place, h]
    · rw [place, if_neg h, List.map_cons, List.map_cons, ih]
      by_cases hmem : e.name ∈ rest.map (·.name)
      · rw [if_pos hmem, if_pos (List.mem_cons_of_mem _ hmem)]
      · have hcons : e.name ∉ d.name :: rest.map (·.name) := by
          rw [List.mem_cons, not_or]
          exact ⟨Ne.symm h, hmem⟩
        rw [if_neg hmem, if_neg hcons, List.cons_append]

/-- A taken name stays where it is; a free one goes last. -/
theorem storedNames_place (e : Registration κ) (r : Registry κ) :
    storedNames ⟨place e r.entries⟩ =
      if e.name ∈ r.storedNames then r.storedNames else r.storedNames ++ [e.name] :=
  map_name_place e r.entries

theorem mem_place {d e : Registration κ} {l : List (Registration κ)} (h : d ∈ place e l) :
    d = e ∨ d ∈ l := by
  induction l with
  | nil => exact .inl (List.mem_singleton.1 h)
  | cons c rest ih =>
    by_cases hc : c.name = e.name
    · rw [place, if_pos hc] at h
      rcases List.mem_cons.1 h with rfl | h
      · exact .inl rfl
      · exact .inr (List.mem_cons_of_mem _ h)
    · rw [place, if_neg hc] at h
      rcases List.mem_cons.1 h with rfl | h
      · exact .inr List.mem_cons_self
      · exact (ih h).imp_right (List.mem_cons_of_mem _)

theorem find?_name_place (e : Registration κ) (l : List (Registration κ)) (name : String) :
    (place e l).find? (fun d => d.name = name) =
      if e.name = name then some e else l.find? fun d => d.name = name := by
  induction l with
  | nil => by_cases h : e.name = name <;> simp [place, h]
  | cons d rest ih =>
    by_cases hd : d.name = e.name
    · rw [place, if_pos hd]
      by_cases h : e.name = name
      · simp [h]
      · simp [h, hd]
    · rw [place, if_neg hd]
      by_cases h : d.name = name
      · have he : e.name ≠ name := fun he => hd (h.trans he.symm)
        simp [h, he]
      · simp [h, ih]

/-! ## Registering -/

theorem any_name_eq (r : Registry κ) (name : String) :
    (r.entries.any fun d => d.name = Text.upper name) = r.contains name := by
  rw [Bool.eq_iff_iff, contains_iff, storedNames, List.mem_map, List.any_eq_true]
  simp only [decide_eq_true_eq]

section

variable [Registrable κ] {r : Registry κ} {k : κ} {override : Bool}

theorem register_of_sample?_eq_none (h : Registrable.sample? k = none) :
    r.register k override = .failed (.needsArguments (Registrable.label k)) r := by
  rw [register, h]

theorem register_of_sample?_eq_some {s : Sample} (h : Registrable.sample? k = some s) :
    r.register k override =
      if r.contains s.typeName = true ∧ override = false then
        .failed (.nameTaken (Text.upper s.typeName)) r
      else .done () ⟨place (registration k s) r.entries⟩ := by
  have hany : (r.entries.any fun d => d.name = (registration k s).name) =
      r.contains s.typeName := any_name_eq r s.typeName
  rw [register, h]
  simp only [hany, Bool.and_eq_true, Bool.not_eq_true']
  rfl

/-- A registration that is refused leaves the registry as it was. -/
theorem keepsIfFailed_register (r : Registry κ) (k : κ) (override : Bool) :
    (r.register k override).KeepsIfFailed r := by
  cases hs : Registrable.sample? k with
  | none =>
    rw [register_of_sample?_eq_none hs]
    exact Attempt.keepsIfFailed_failed
  | some s =>
    rw [register_of_sample?_eq_some hs]
    split
    · exact Attempt.keepsIfFailed_failed
    · exact Attempt.keepsIfFailed_done

/-- A kind is registered if it shows a name that is free, or that may be taken from another. -/
theorem result_register_eq_ok_iff :
    (r.register k override).result = .ok () ↔ ∃ s, Registrable.sample? k = some s ∧
      ¬ (r.contains s.typeName = true ∧ override = false) ∧
        (r.register k override).state = ⟨place (registration k s) r.entries⟩ := by
  cases hs : Registrable.sample? k with
  | none => simp [register_of_sample?_eq_none hs, Attempt.failed]
  | some s =>
    rw [register_of_sample?_eq_some hs]
    split
    · next h => simp [h, Attempt.failed]
    · next h => exact ⟨fun _ => ⟨s, rfl, h, rfl⟩, fun _ => rfl⟩

/-- The two causes of a refusal. -/
theorem result_register_eq_error_iff {e : RegistryError} :
    (r.register k override).result = .error e ↔
      (Registrable.sample? k = none ∧ e = .needsArguments (Registrable.label k)) ∨
        ∃ s, Registrable.sample? k = some s ∧ r.contains s.typeName = true ∧ override = false ∧
          e = .nameTaken (Text.upper s.typeName) := by
  cases hs : Registrable.sample? k with
  | none =>
    rw [register_of_sample?_eq_none hs]
    simp only [Attempt.failed, Except.error.injEq, true_and, reduceCtorEq, false_and, exists_false,
      or_false]
    exact eq_comm
  | some s =>
    rw [register_of_sample?_eq_some hs]
    split
    · next h =>
      simp only [Attempt.failed, Except.error.injEq, reduceCtorEq, false_and, false_or,
        Option.some.injEq, exists_eq_left', h, true_and]
      exact eq_comm
    · next h =>
      simp only [Attempt.done, reduceCtorEq, false_and, false_or, Option.some.injEq,
        exists_eq_left', false_iff]
      rintro ⟨htaken, hoverride, -⟩
      exact h ⟨htaken, hoverride⟩

end

/-! ## Looking afterwards -/

/-- The registration that was placed is found by its name, the others as before. -/
theorem get?_place (e : Registration κ) (r : Registry κ) (name : String) :
    get? ⟨place e r.entries⟩ name =
      if Text.upper name = e.name then some e.kind else r.get? name := by
  rw [get?, entry?, find?_name_place]
  by_cases h : e.name = Text.upper name
  · rw [if_pos h, if_pos h.symm]
    rfl
  · rw [if_neg h, if_neg (Ne.symm h)]
    rfl

/-- A name that was given up is found no more, the others as before. -/
theorem get?_unregister (r : Registry κ) (given name : String) :
    (r.unregister given).2.get? name =
      if Text.upper name = Text.upper given then none else r.get? name := by
  show Option.map _ ((r.entries.filter fun e => e.name != Text.upper given).find? _) = _
  rw [List.find?_filter]
  split
  · next h =>
    rw [Option.map_eq_none_iff, List.find?_eq_none]
    intro e _
    simp [h]
  · next h =>
    rw [get?, entry?]
    congr 2
    funext e
    by_cases he : e.name = Text.upper name
    · simp [he, h]
    · simp [he]

/-! ## Calls -/

/-- A call that may change a registry. -/
inductive Call (κ : Type) where
  | register (kind : κ) (override : Bool)
  | unregister (name : String)

section

variable [Registrable κ]

/-- The registry that a call leaves behind. -/
def after (r : Registry κ) : Call κ → Registry κ
  | .register k override => (r.register k override).state
  | .unregister name => (r.unregister name).2

/-- What a call can do: leave the registry alone, place a registration, take one away. -/
theorem after_cases (r : Registry κ) (call : Call κ) :
    r.after call = r ∨
      (∃ k override s, call = .register k override ∧ Registrable.sample? k = some s ∧
        r.after call = ⟨place (registration k s) r.entries⟩) ∨
      ∃ name, call = .unregister name ∧
        r.after call = ⟨r.entries.filter fun e => e.name != Text.upper name⟩ := by
  cases call with
  | register k override =>
    cases h : (r.register k override).result with
    | error e => exact .inl (keepsIfFailed_register r k override e h)
    | ok _ =>
      obtain ⟨s, hs, -, hstate⟩ := result_register_eq_ok_iff.1 h
      exact .inr (.inl ⟨k, override, s, rfl, hs, hstate⟩)
  | unregister name => exact .inr (.inr ⟨name, rfl, rfl⟩)

theorem mem_entries_after {r : Registry κ} {call : Call κ} {e : Registration κ}
    (h : e ∈ (r.after call).entries) :
    e ∈ r.entries ∨ ∃ k override s, call = .register k override ∧
      Registrable.sample? k = some s ∧ e = registration k s := by
  rcases r.after_cases call with hr | ⟨k, override, s, hcall, hs, hr⟩ | ⟨name, -, hr⟩
  · rw [hr] at h
    exact .inl h
  · rw [hr] at h
    rcases mem_place h with rfl | h
    · exact .inr ⟨k, override, s, hcall, hs, rfl⟩
    · exact .inl h
  · rw [hr] at h
    exact .inl (List.mem_of_mem_filter h)

/-- A call keeps the order of the taken names; one that becomes taken goes last. -/
theorem storedNames_after (r : Registry κ) (call : Call κ) :
    (r.after call).storedNames.Sublist r.storedNames ∨
      ∃ name, name ∉ r.storedNames ∧ (r.after call).storedNames = r.storedNames ++ [name] := by
  rcases r.after_cases call with hr | ⟨k, override, s, -, -, hr⟩ | ⟨name, -, hr⟩
  · rw [hr]
    exact .inl (List.Sublist.refl _)
  · rw [hr, storedNames_place]
    split
    · exact .inl (List.Sublist.refl _)
    · next hmem => exact .inr ⟨_, hmem, rfl⟩
  · rw [hr]
    exact .inl (List.filter_sublist.map _)

end

end VCardKit.Registry
