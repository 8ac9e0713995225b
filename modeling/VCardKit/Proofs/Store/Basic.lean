/-
  Frame lemmas of a store: what stands at an identity after a row was added, what a change of one
  row or of one container leaves alone, and what a hook makes of the copy that it is given.
-/
import VCardKit.Store.Property

namespace VCardKit.Store

variable {s : Store}

/-! ## Containers -/

theorem parametersAt_changeParameters {i : Nat} (h : i < s.parameters.size) (id : ParametersId)
    (c : Parameters.Change) : (s.changeParameters id c).state.parametersAt ⟨i⟩ =
      if id.index = i then ((s.parametersAt ⟨i⟩).change c).state else s.parametersAt ⟨i⟩ := by
  split
  · next hid =>
    subst hid
    exact Containers.get_change_self h c
  · next hid => exact Containers.get_change_of_ne hid c

/-- A change that is refused leaves the store as it was. -/
theorem keepsIfFailed_changeParameters (s : Store) (id : ParametersId) (c : Parameters.Change) :
    (s.changeParameters id c).KeepsIfFailed s :=
  Attempt.KeepsIfFailed.mapState (Containers.keepsIfFailed_change s.parameters id.index c)
    fun parameters => ({ s with parameters } : Store)

theorem parametersAt_clearParameters {i : Nat} (h : i < s.parameters.size) (id : ParametersId) :
    (s.clearParameters id).parametersAt ⟨i⟩ =
      if id.index = i then .empty else s.parametersAt ⟨i⟩ := by
  split
  · next hid =>
    subst hid
    exact Containers.get_clear_self h
  · next hid => exact Containers.get_clear_of_ne hid

theorem parametersAt_copyParameters {i : Nat} (h : i < s.parameters.size) (id : ParametersId) :
    (s.copyParameters id).2.parametersAt ⟨i⟩ = s.parametersAt ⟨i⟩ :=
  Containers.get_add_of_lt h _

/-- A copy holds what the original holds. -/
theorem parametersAt_copyParameters_self (s : Store) (id : ParametersId) :
    (s.copyParameters id).2.parametersAt (s.copyParameters id).1 = s.parametersAt id :=
  Containers.get_add_size _ _

theorem parametersAt_addProperty {c : ParametersId} (h : c.index < s.parameters.size)
    (p : AnyProperty) : (s.addProperty p).2.parametersAt c = s.parametersAt c :=
  Containers.get_add_of_lt h _

/-! ## Written parameters -/

section

variable (own : ParametersId) (hook : Parameters → List Parameters.Edit)

theorem size_writeParametersBy (s : Store) :
    (s.writeParametersBy own hook).2.parameters.size = s.parameters.size + 1 :=
  (Containers.size_editAll _).trans (Containers.size_add _ _)

/-- The edits of a hook reach the copy. -/
theorem parametersAt_writeParametersBy_self (s : Store) :
    let out := s.writeParametersBy own hook
    out.2.parametersAt out.1 =
      (hook (s.parametersAt own)).foldl Parameters.Edit.apply (s.parametersAt own) := by
  intro out
  have hsize : s.parameters.size < (s.copyParameters own).2.parameters.size :=
    (Containers.size_add _ _).symm ▸ Nat.lt_succ_self _
  have hedits : out.2.parametersAt out.1 =
      (hook ((s.copyParameters own).2.parametersAt (s.copyParameters own).1)).foldl
        Parameters.Edit.apply ((s.copyParameters own).2.parametersAt (s.copyParameters own).1) :=
    Containers.get_editAll_self hsize _
  rw [hedits, parametersAt_copyParameters_self]

/-- The edits of a hook reach no container that was there. -/
theorem parametersAt_writeParametersBy {i : Nat} (h : i < s.parameters.size) :
    (s.writeParametersBy own hook).2.parametersAt ⟨i⟩ = s.parametersAt ⟨i⟩ :=
  (Containers.get_editAll_of_ne (Nat.ne_of_gt h) _).trans (parametersAt_copyParameters h own)

end

theorem parametersAt_writeParameters (s : Store) (id : PropertyId) (version : Version) (mode : Mode)
    (card : Option CardId) :
    let out := s.writeParameters id version mode card
    out.2.parametersAt out.1 =
      (s.propertyAt id).writeParameters version mode (card.map s.cardAt) :=
  parametersAt_writeParametersBy_self _ _ s

/-! ## Properties -/

theorem storedAt_addProperty (s : Store) (p : AnyProperty) :
    (s.addProperty p).2.storedAt (s.addProperty p).1 =
      ⟨p.typeName, p.group, ⟨s.parameters.size⟩, p.content⟩ :=
  Table.get_add_size _ _

theorem lt_size_addProperty (s : Store) (p : AnyProperty) :
    (s.addProperty p).1.index < (s.addProperty p).2.properties.size := by
  simp only [addProperty, addPropertyWith, addStored, addParameters, Table.size_add]
  exact Nat.lt_succ_self _

theorem storedAt_setContent_of_ne {id other : PropertyId} (h : id.index ≠ other.index)
    (content : AnyContent) : (s.setContent id content).storedAt other = s.storedAt other :=
  Table.get_set_of_ne s.properties h _

/-- A property that is given the content it has stays as it is. -/
theorem setContent_self (s : Store) (id : PropertyId) :
    s.setContent id (s.storedAt id).content = s :=
  congrArg (fun properties => ({ s with properties } : Store))
    (Table.set_get_self s.properties id.index)

section

variable {id : PropertyId} (h : id.index < s.properties.size)

include h

theorem storedAt_setStored (p : StoredProperty) : (s.setStored id p).storedAt id = p :=
  Table.get_set_self h p

theorem storedAt_setContent (content : AnyContent) :
    (s.setContent id content).storedAt id = { s.storedAt id with content } :=
  storedAt_setStored h _

theorem content_setContent (content : AnyContent) :
    ((s.setContent id content).storedAt id).content = content := by
  rw [storedAt_setContent h]

theorem lt_size_setStored (p : StoredProperty) : id.index < (s.setStored id p).properties.size := by
  rwa [setStored, Table.size_set]

theorem lt_size_install (c : ParametersId) : id.index < (s.install id c).properties.size :=
  lt_size_setStored h _

theorem lt_size_setContent (content : AnyContent) :
    id.index < (s.setContent id content).properties.size :=
  lt_size_setStored h _

theorem storedAt_install (c : ParametersId) :
    (s.install id c).storedAt id = { s.storedAt id with parameters := c } :=
  storedAt_setStored h _

/-- A property that was given a container shows what that container holds. -/
theorem propertyAt_install (c : ParametersId) :
    (s.install id c).propertyAt id =
      { s.propertyAt id with parameters := s.parametersAt c } := by
  simp only [propertyAt, storedAt_install h]
  rfl

end

end VCardKit.Store
