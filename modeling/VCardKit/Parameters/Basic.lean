/-
  The parameters of a property: an ordered multimap from names, whose case does not count, to
  values. A name keeps the place of its first arrival, and values keep the order in which they
  were put. Two containers are equal if every name has the same values in both; the order of the
  names does not count.
-/
import VCardKit.Parameters.Entries
import VCardKit.Text.Quoted

namespace VCardKit

/-- The parameters of a property. -/
@[ext]
structure Parameters where
  entries : Parameters.Entries
  wellFormed : Parameters.Entries.WellFormed entries

namespace Parameters

instance : DecidableEq Parameters := fun a b =>
  if h : a.entries = b.entries then
    isTrue (by cases a; cases b; simp_all)
  else isFalse fun e => h (by rw [e])

/-! ## Looking -/

/-- No parameters. -/
def empty : Parameters := ⟨[], Entries.wellFormed_nil⟩

instance : Inhabited Parameters := ⟨empty⟩

/-- The names, in order of arrival. -/
def names (p : Parameters) : List String := Entries.names p.entries

/-- The values of a parameter. -/
def get (p : Parameters) (name : String) : List String := Entries.values (key name) p.entries

/-- The first value of a parameter. -/
def first? (p : Parameters) (name : String) : Option String := (p.get name).head?

/-- Names and values in order, one pair for each value. -/
def items (p : Parameters) : List (String × String) :=
  p.entries.flatMap fun e => e.2.map fun v => (e.1, v)

/-- The number of values under all names. -/
def size (p : Parameters) : Nat := (p.entries.flatMap (·.2)).length

/-- Whether a parameter has a value. -/
def contains (p : Parameters) (name : String) : Bool := p.names.contains (key name)

/-- Whether every name has the same values in both. -/
def same (p q : Parameters) : Bool :=
  p.entries.length = q.entries.length && p.entries.all fun e => q.entries.lookup e.1 = some e.2

/-- The parameters as a log shows them. -/
def describe (p : Parameters) : String :=
  let entry := fun (e : String × List String) => Text.quoted e.1 ++ ": " ++ Text.quotedList e.2
  "VCardParameters(\x7b" ++ ", ".intercalate (p.entries.map entry) ++ "\x7d)"

/-! ## Changing -/

/-- Puts a value behind those that a parameter has. -/
def put (p : Parameters) (name value : String) : Parameters :=
  ⟨Entries.put (key name) value p.entries, p.wellFormed.put name value⟩

/-- The parameters without one name. -/
def removeAll (p : Parameters) (name : String) : Parameters :=
  ⟨Entries.drop (key name) p.entries, p.wellFormed.drop (key name)⟩

/-- Gives a parameter one value in place of those it has, or none. With a value the name goes
last. -/
def replace (p : Parameters) (name : String) : Option String → Parameters
  | some value => (p.removeAll name).put name value
  | none => p.removeAll name

/-- The parameters without the first occurrence of a value of one name. -/
def remove (p : Parameters) (name value : String) : Parameters :=
  ⟨Entries.removeFirst (key name) value p.entries, p.wellFormed.removeFirst (key name) value⟩

/-- The container with the given names and values put one by one. -/
def ofList (items : List (String × String)) : Parameters :=
  items.foldl (fun p item => p.put item.1 item.2) empty

end Parameters

end VCardKit
