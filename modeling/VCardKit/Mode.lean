/-
  Compatibility modes: the program for which a card is written, or by which it was written. A mode
  and a version, for where none is named, are the defaults of a reader or writer.
-/
import VCardKit.Text.Case
import VCardKit.Version

namespace VCardKit

/-- A compatibility mode; `rfc` follows the standards without bias. -/
inductive Mode where
  | rfc
  | outlook
  | macAddressBook
  | gmail
  | iPhone
  | evolution
  | kdeAddressBook
  deriving DecidableEq, Repr

namespace Mode

def all : List Mode :=
  [.rfc, .outlook, .macAddressBook, .gmail, .iPhone, .evolution, .kdeAddressBook]

theorem mem_all (m : Mode) : m ∈ all := by cases m <;> decide

/-- The short name. -/
def text : Mode → String
  | rfc => "rfc"
  | outlook => "outlook"
  | macAddressBook => "mac"
  | gmail => "gmail"
  | iPhone => "iphone"
  | evolution => "evolution"
  | kdeAddressBook => "kde"

/-- The long name, in lower case. -/
def longText : Mode → String
  | macAddressBook => "mac_address_book"
  | iPhone => "i_phone"
  | kdeAddressBook => "kde_address_book"
  | m => m.text

/-- The mode with the given short or long name; case and blanks around it are ignored. -/
def ofText? (s : String) : Option Mode :=
  let wanted := Text.lower (Text.strip s)
  all.find? fun m => m.text == wanted || m.longText == wanted

end Mode

/-- Defaults for reading and writing. -/
structure Config where
  defaultVersion : Version := .v4_0
  mode : Mode := .rfc
  deriving DecidableEq, Repr, Inhabited

end VCardKit
