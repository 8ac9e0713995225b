/-
  The versions of the card format, oldest first, and the namespace of its XML vocabulary.
-/
import VCardKit.Text.Blank

namespace VCardKit

/-- A version of the card format. -/
inductive Version where
  | v2_1
  | v3_0
  | v4_0
  deriving DecidableEq, Repr

/-- The namespace of the XML vocabulary. -/
def xCardNamespace : String := "urn:ietf:params:xml:ns:vcard-4.0"

namespace Version

/-- All versions, oldest first. -/
def all : List Version := [.v2_1, .v3_0, .v4_0]

theorem mem_all (v : Version) : v ∈ all := by cases v <;> decide

/-- The version as it stands in a card. -/
def text : Version → String
  | v2_1 => "2.1"
  | v3_0 => "3.0"
  | v4_0 => "4.0"

/-- The position of a version in time. -/
def rank : Version → Nat
  | v2_1 => 0
  | v3_0 => 1
  | v4_0 => 2

/-- One version is older than another. -/
instance : LT Version := ⟨fun a b => a.rank < b.rank⟩

instance (a b : Version) : Decidable (a < b) := inferInstanceAs (Decidable (a.rank < b.rank))

/-- The namespace of a version's XML vocabulary; only 4.0 has one. -/
def xmlNamespace? : Version → Option String
  | v4_0 => some xCardNamespace
  | _ => none

/-- The version with the given text, blanks around it ignored. -/
def ofText? (s : String) : Option Version := all.find? fun v => v.text == Text.strip s

/-- The texts of the versions that satisfy `p`, oldest first, in brackets. -/
def listText (p : Version → Bool) : String :=
  "[" ++ ", ".intercalate ((all.filter p).map text) ++ "]"

end Version

end VCardKit
