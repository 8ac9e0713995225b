/-
  How writing or reading a property can fail. Three of the failures are outcomes that a reader or
  writer of cards handles: the property is to be left out, its value is malformed, or its value is
  a card of its own. The others reach the caller.
-/
import VCardKit.Card
import VCardKit.DataType
import VCardKit.Url.Host

namespace VCardKit

/-- Who takes a nested card. -/
inductive Receiver where
  /-- The property that is being read. -/
  | reader
  /-- A property known to a store. -/
  | property (id : PropertyId)
  deriving DecidableEq, Repr

/-- The value of a property is a whole card: when writing the card to be written, when reading the
receiver of the card that is to be read. -/
structure Embedded where
  card : Option CardId := none
  receiver : Option Receiver := none
  deriving DecidableEq, Repr

/-- A failure to write or read a property. -/
inductive Failure where
  /-- The property is to be left out. -/
  | skip (reason : Option String)
  /-- The value is malformed. -/
  | cannotParse (reason : String)
  /-- The value is a card. -/
  | embedded (value : Embedded)
  /-- The property type does not read the format. -/
  | unsupportedFormat (typeName format : String)
  /-- A link of the page cannot be resolved. -/
  | badLink (error : Url.UrlError)
  /-- A comment of the page stands where an element with attributes is needed. -/
  | noAttributes
  /-- A comment stands where an XML element is needed. -/
  | noElement
  deriving DecidableEq, Repr

/-- The text of a failure. A reason that is missing or empty gives way to a general one. -/
def Failure.message : Failure → String
  | skip reason =>
    match reason with
    | none | some "" => "Property skipped."
    | some reason => reason
  | cannotParse reason => reason
  | embedded _ => "Property value is an embedded vCard."
  | unsupportedFormat typeName format =>
    "Property type " ++ typeName ++ " does not support the parsing of " ++ format ++ "."
  | badLink error => error.message
  | noAttributes => "A comment has no attributes."
  | noElement => "A comment has no tag."

/-! ## Missing elements -/

/-- An XML element that a reader looks for: by name, or by the data type of its text. -/
inductive ExpectedElement where
  | named (text : String)
  | ofType (dataType : Option DataType)
  deriving DecidableEq, Repr

def ExpectedElement.text : ExpectedElement → String
  | named text => text
  | ofType none => "unknown"
  | ofType (some t) => t.wireName

def angled (name : String) : String := "<" ++ name ++ ">"

/-- The words that list the elements of which none was found. -/
def missingText : List String → String
  | [] => "Property value empty."
  | [a] => "Property value empty (no " ++ angled a ++ " element found)."
  | [a, b] => "Property value empty (no " ++ angled a ++ " or " ++ angled b ++ " elements found)."
  | names =>
    "Property value empty (no " ++ ", ".intercalate (names.dropLast.map angled) ++ ", or " ++
      angled (names.getLastD "") ++ " elements found)."

/-- None of the elements was found. -/
def Failure.missing (elements : List ExpectedElement) : Failure :=
  .cannotParse (missingText (elements.map ExpectedElement.text))

end VCardKit
