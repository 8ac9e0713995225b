/-
  The order of preference among properties: a lower rank first, and properties without a rank last.
  Ranks that are no numbers count as none. Properties of equal rank are equally preferred, whichever
  they are.
-/
import VCardKit.Property.Basic

namespace VCardKit

/-- A comparison of two properties. -/
inductive Comparison where
  | less
  | lessOrEqual
  | greater
  | greaterOrEqual
  deriving DecidableEq, Repr

/-- The orders in which a comparison holds. -/
def Comparison.accepts : Comparison → Ordering → Bool
  | less, order => order.isLT
  | lessOrEqual, order => order.isLE
  | greater, order => order.isGT
  | greaterOrEqual, order => order.isGE

/-- What decides the preference: whether there is no rank, and the rank. -/
structure Preference where
  unranked : Bool
  rank : Int
  deriving DecidableEq, Repr

namespace Preference

def ofParameters (parameters : Parameters) : Preference :=
  match parameters.pref? with
  | some rank => ⟨false, rank⟩
  | none => ⟨true, 0⟩

/-- Less is more preferred. -/
def compare (a b : Preference) : Ordering :=
  (Ord.compare a.unranked b.unranked).then (Ord.compare a.rank b.rank)

/-- Whether `a` is strictly preferred to `b`. -/
def before (a b : Preference) : Bool := a.compare b == .lt

/-- Whether a comparison holds of two preferences. -/
def holds (c : Comparison) (a b : Preference) : Bool := c.accepts (a.compare b)

variable {α : Type}

/-- The first of the most preferred. -/
def best? (preference : α → Preference) : List α → Option α
  | [] => none
  | a :: rest =>
    match best? preference rest with
    | none => some a
    | some b => if (preference b).before (preference a) then some b else some a

/-- The list in order of preference; equally preferred members keep their order. -/
def sort (preference : α → Preference) (as : List α) : List α :=
  as.mergeSort fun a b => !(preference b).before (preference a)

end Preference

/-- The preference of a property. -/
def Property.preference {V : Type} (p : Property V) : Preference := .ofParameters p.parameters

end VCardKit
