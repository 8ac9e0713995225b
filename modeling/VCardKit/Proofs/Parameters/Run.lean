/-
  Runs over containers. A run starts from one empty container; each step changes a container, clears
  it or makes a copy, which is a further container. A step reaches the container it names and no
  other (`parametersAt_afterStep`), and a change reaches its name and no other (`OnlyChanges`).
  Setters of parameters with a meaning of their own are changes of a fixed name; a setter that
  refuses its argument changes nothing.
-/
import VCardKit.Parameters.Change
import VCardKit.Proofs.Parameters.Multimap
import VCardKit.Proofs.Store.Basic

namespace VCardKit

namespace Parameters

/-! ## Edits -/

theorem Edit.onlyChanges (c : Parameters) (e : Edit) : OnlyChanges e.name c (e.apply c) := by
  cases e with
  | put name value => exact onlyChanges_put c name value
  | replace name value => exact onlyChanges_replace c name value
  | remove name value => exact onlyChanges_remove c name value
  | removeAll name => exact onlyChanges_removeAll c name

theorem exists_of_map_eq_ok {ε α β : Type} {f : α → β} {x : Except ε α} {b : β}
    (h : x.map f = .ok b) : ∃ a, x = .ok a ∧ f a = b := by
  cases x with
  | error e => cases h
  | ok a => exact ⟨a, rfl, Except.ok.inj h⟩

/-- What a setter comes down to is about its own name. -/
theorem Setter.name_of_edit? {setter : Setter} {e : Edit} (h : setter.edit? = .ok e) :
    e.name = setter.name := by
  cases setter with
  | rank field value =>
    cases value with
    | none =>
      cases h
      rfl
    | some n =>
      rw [edit?] at h
      obtain ⟨text, -, rfl⟩ := exists_of_map_eq_ok h
      rfl
  | addPid localId source =>
    rw [edit?] at h
    obtain ⟨text, -, rfl⟩ := exists_of_map_eq_ok h
    rfl
  | dataType | text | addType | removePids =>
    cases h
    rfl

namespace Change

variable {change : Change} {e : Edit}

theorem name_of_edit? (h : change.edit? = .ok e) : e.name = change.name := by
  cases change with
  | put name value =>
    cases value with
    | none => cases h
    | some value =>
      cases h
      rfl
  | set setter => exact Setter.name_of_edit? h
  | replace | remove | removeAll =>
    cases h
    rfl

/-- A change, refused or not, is a change of its name alone. -/
theorem onlyChanges (c : Parameters) (change : Change) :
    OnlyChanges change.name c (c.change change).state := by
  unfold Parameters.change
  split
  · next e h =>
    rw [← name_of_edit? h]
    exact e.onlyChanges c
  · exact .refl _ c

end Change

/-! ## Changes -/

/-- What the changes of a multimap answer and what they make of the values and of the names; a
change that is refused makes nothing of them. -/
structure ChangesAsMultimap (c : Parameters) : Prop where
  get_put : ∀ n v, (c.change (.put n (some v))).state.get n = c.get n ++ [v]
  names_put : ∀ n v, (c.change (.put n (some v))).state.names =
    if Text.upper n ∈ c.names then c.names else c.names ++ [Text.upper n]
  remove_found : ∀ n v, (c.change (.remove n v)).result = .ok (.found (decide (v ∈ c.get n)))
  get_remove : ∀ n v, (c.change (.remove n v)).state.get n = (c.get n).erase v
  names_remove : ∀ n v, (c.change (.remove n v)).state.names =
    if (c.get n).erase v = [] then c.names.filter (· != Text.upper n) else c.names
  removeAll_former : ∀ n, (c.change (.removeAll n)).result = .ok (.former (c.get n))
  get_removeAll : ∀ n, (c.change (.removeAll n)).state.get n = []
  names_removeAll : ∀ n, (c.change (.removeAll n)).state.names =
    c.names.filter (· != Text.upper n)
  replace_former : ∀ n v, (c.change (.replace n v)).result = .ok (.former (c.get n))
  get_replace : ∀ n v, (c.change (.replace n v)).state.get n = v.toList
  names_replace : ∀ n v, (c.change (.replace n v)).state.names =
    c.names.filter (· != Text.upper n) ++ v.toList.map fun _ => Text.upper n
  refused : ∀ change e, (c.change change).result = .error e → (c.change change).state = c

theorem changesAsMultimap (c : Parameters) : ChangesAsMultimap c where
  get_put := get_put_self c
  names_put := Parameters.names_put c
  remove_found n v := congrArg (Except.ok ∘ Answer.found) (List.contains_eq_mem v (c.get n))
  get_remove := get_remove_self c
  names_remove := Parameters.names_remove c
  removeAll_former _ := rfl
  get_removeAll := get_removeAll_self c
  names_removeAll := Parameters.names_removeAll c
  replace_former _ _ := rfl
  get_replace := get_replace_self c
  names_replace := Parameters.names_replace c
  refused := keepsIfFailed_change c

end Parameters

/-! ## Steps on a store -/

namespace Store

open Parameters (Change IsMultimap OnlyChanges ChangesAsMultimap)

/-- A step of a run over containers. -/
inductive ContainerStep where
  | change (id : ParametersId) (change : Change)
  | clear (id : ParametersId)
  | copy (id : ParametersId)

/-- The store that a step leaves behind. -/
def afterStep (s : Store) : ContainerStep → Store
  | .change id change => (s.changeParameters id change).state
  | .clear id => s.clearParameters id
  | .copy id => (s.copyParameters id).2

/-- What a step makes of the container at a position, given its content alone. -/
def ContainerStep.own (i : Nat) (c : Parameters) : ContainerStep → Parameters
  | .change id ch => if id.index = i then (c.change ch).state else c
  | .clear id => if id.index = i then .empty else c
  | .copy _ => c

/-- A step reaches the container that it names and no other. -/
theorem parametersAt_afterStep {s : Store} {i : Nat} (h : i < s.parameters.size)
    (step : ContainerStep) :
    (s.afterStep step).parametersAt ⟨i⟩ = step.own i (s.parametersAt ⟨i⟩) := by
  cases step with
  | change id change => exact parametersAt_changeParameters h id change
  | clear id => exact parametersAt_clearParameters h id
  | copy id => exact parametersAt_copyParameters h id

/-- Containers stay: a position that is taken remains so. -/
theorem lt_size_afterStep {s : Store} {i : Nat} (h : i < s.parameters.size)
    (step : ContainerStep) : i < (s.afterStep step).parameters.size := by
  cases step with
  | change id change => exact (Containers.size_change change).symm ▸ h
  | clear id => exact Containers.size_clear.symm ▸ h
  | copy id => exact (Containers.size_add _ _).symm ▸ Nat.lt_succ_of_lt h

/-- In a whole run, a container becomes what its own steps make of it. -/
theorem parametersAt_foldl_afterStep (steps : List ContainerStep) {s : Store} {i : Nat}
    (h : i < s.parameters.size) :
    (steps.foldl afterStep s).parametersAt ⟨i⟩ =
      steps.foldl (fun c step => step.own i c) (s.parametersAt ⟨i⟩) := by
  induction steps generalizing s with
  | nil => rfl
  | cons step steps ih =>
    rw [List.foldl_cons, List.foldl_cons, ih (lt_size_afterStep h step),
      parametersAt_afterStep h step]

/-- The store after a run that starts from one empty container. -/
def afterRun (steps : List ContainerStep) : Store :=
  steps.foldl afterStep (initial.addParameters .empty).2

/-- **Containers are ordered multimaps over whole runs.** Every container that a run reaches shows
its observers a multimap; every change does to its values and names what a multimap does, answers
in the store what a multimap answers, leaves the other names alone, and leaves the whole store alone
if it is refused; a copy holds the same; and whatever follows, the container becomes what the steps
that name it make of it. -/
theorem afterRun_isMultimap (steps : List ContainerStep)
    (i : Fin (afterRun steps).parameters.size) :
    let s := afterRun steps
    let c := s.parametersAt ⟨i⟩
    IsMultimap c ∧ ChangesAsMultimap c ∧
      (∀ change : Change, OnlyChanges change.name c (c.change change).state ∧
        (s.changeParameters ⟨i⟩ change).result = (c.change change).result ∧
        (s.changeParameters ⟨i⟩ change).KeepsIfFailed s) ∧
      (s.afterStep (.copy ⟨i⟩)).parametersAt ⟨s.parameters.size⟩ = c ∧
      ∀ more : List ContainerStep, (afterRun (steps ++ more)).parametersAt ⟨i⟩ =
        more.foldl (fun c step => step.own i c) c := by
  intro s c
  refine ⟨c.isMultimap, c.changesAsMultimap, fun change => ?_, ?_, fun more => ?_⟩
  · exact ⟨Change.onlyChanges c change, Containers.result_change change,
      keepsIfFailed_changeParameters s ⟨i⟩ change⟩
  · exact parametersAt_copyParameters_self s ⟨i⟩
  · rw [afterRun, List.foldl_append]
    exact parametersAt_foldl_afterStep more i.isLt

end Store

end VCardKit
