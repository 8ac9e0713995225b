/-
  Changes of a container as its users ask for them. A change is checked first, and comes down to an
  edit of one name, which cannot fail; a change that is refused leaves the container as it was
  (`keepsIfFailed_change`).
-/
import VCardKit.Attempt
import VCardKit.Parameters.WellKnown

namespace VCardKit.Parameters

/-! ## Edits -/

/-- A change of one name that cannot be refused. -/
inductive Edit where
  | put (name value : String)
  | replace (name : String) (value : Option String)
  | remove (name value : String)
  | removeAll (name : String)
  deriving DecidableEq, Repr

namespace Edit

/-- The name that an edit is about. -/
def name : Edit → String
  | put name _ | replace name _ | remove name _ | removeAll name => name

/-- The container with an edit. -/
def apply (p : Parameters) : Edit → Parameters
  | put name value => p.put name value
  | replace name value => p.replace name value
  | remove name value => p.remove name value
  | removeAll name => p.removeAll name

/-- Declares the data type of the value, or none. -/
def ofDataType (dataType : Option DataType) : Edit :=
  .replace "VALUE" (dataType.map DataType.wireName)

end Edit

/-! ## Setters -/

/-- A setter of a parameter with a meaning of its own. -/
inductive Setter where
  | rank (field : RankField) (value : Option Int)
  | dataType (dataType : Option DataType)
  | text (field : TextField) (value : Option String)
  | addType (value : String)
  | addPid (localId : Int) (source : Option Int)
  | removePids

namespace Setter

/-- The name that a setter changes. -/
def name : Setter → String
  | rank field _ => field.name
  | dataType _ => "VALUE"
  | text field _ => field.name
  | addType _ => "TYPE"
  | addPid _ _ | removePids => "PID"

/-- The edit that a setter comes down to, unless it is refused. -/
def edit? : Setter → Except ParameterError Edit
  | rank field none => .ok (.replace field.name none)
  | rank field (some n) => (field.text n).map fun text => .replace field.name (some text)
  | dataType t => .ok (.ofDataType t)
  | text field value => .ok (.replace field.name value)
  | addType value => .ok (.put "TYPE" value)
  | addPid localId source => (pidText localId source).map fun text => .put "PID" text
  | removePids => .ok (.removeAll "PID")

end Setter

/-! ## Changes -/

/-- A change of one name. The value to put may be missing. -/
inductive Change where
  | put (name : String) (value : Option String)
  | replace (name : String) (value : Option String)
  | remove (name value : String)
  | removeAll (name : String)
  | set (setter : Setter)

/-- What a change answers. -/
inductive Answer where
  | nothing
  /-- The former values of the name. -/
  | former (values : List String)
  /-- Whether the value was there. -/
  | found (isFound : Bool)
  deriving DecidableEq, Repr

namespace Change

/-- The name that a change is about. -/
def name : Change → String
  | put name _ | replace name _ | remove name _ | removeAll name => name
  | set setter => setter.name

/-- The edit that a change comes down to, unless it is refused. -/
def edit? : Change → Except ParameterError Edit
  | put name (some value) => .ok (.put name value)
  | put name none => .error (.noValue name)
  | replace name value => .ok (.replace name value)
  | remove name value => .ok (.remove name value)
  | removeAll name => .ok (.removeAll name)
  | set setter => setter.edit?

/-- What a change of a container answers. -/
def answer (p : Parameters) : Change → Answer
  | replace name _ | removeAll name => .former (p.get name)
  | remove name value => .found ((p.get name).contains value)
  | put _ _ | set _ => .nothing

end Change

/-- Makes a change. -/
def change (p : Parameters) (c : Change) : Attempt ParameterError Parameters Answer :=
  match c.edit? with
  | .ok edit => .done (c.answer p) (edit.apply p)
  | .error e => .failed e p

theorem change_of_ok {c : Change} {e : Edit} (h : c.edit? = .ok e) (p : Parameters) :
    p.change c = .done (c.answer p) (e.apply p) := by
  rw [change, h]

theorem change_of_error {c : Change} {e : ParameterError} (h : c.edit? = .error e)
    (p : Parameters) : p.change c = .failed e p := by
  rw [change, h]

theorem keepsIfFailed_change (p : Parameters) (c : Change) : (p.change c).KeepsIfFailed p := by
  cases h : c.edit? with
  | ok e =>
    rw [change_of_ok h]
    exact Attempt.keepsIfFailed_done
  | error e =>
    rw [change_of_error h]
    exact Attempt.keepsIfFailed_failed

end VCardKit.Parameters
