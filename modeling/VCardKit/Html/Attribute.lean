/-
  Attributes of HTML elements. The name of an attribute may lie in a namespace, which is written in
  braces in front of it; empty braces are no namespace.
-/
import VCardKit.Text.Blank

namespace VCardKit.Html

open VCardKit.Text

/-- The name of an attribute. -/
structure AttributeName where
  /-- The namespace; empty if there is none. -/
  space : String := ""
  localName : String
  deriving Inhabited, DecidableEq, Repr

/-- The values of attributes by their names. -/
abbrev Attributes := List (AttributeName × String)

/-- Why a text is no name of an attribute. -/
inductive NameError where
  /-- No local name. -/
  | empty
  /-- A namespace without its closing brace. -/
  | unclosed
  /-- A character that no document holds. -/
  | notCharacters
  deriving DecidableEq, Repr

def NameError.message : NameError → String
  | empty => "Empty tag name"
  | unclosed => "Invalid tag name"
  | notCharacters =>
    "All strings must be XML compatible: Unicode or ASCII, no NULL bytes or control characters"

/-- A character that a document may hold. -/
def isDocumentChar (c : Char) : Bool :=
  (0x20 ≤ c.toNat || c = '\t' || c = '\n' || c = '\r') && c != '\ufffe' && c != '\uffff'

namespace AttributeName

/-- The name that a text writes. -/
def ofString? (s : String) : Except NameError AttributeName :=
  if !s.toList.all isDocumentChar then .error .notCharacters
  else
    match s.toList with
    | [] => .error .empty
    | '\x7b' :: rest =>
      if !rest.contains '\x7d' then .error .unclosed
      else
        match cutAt (· = '\x7d') rest with
        | (_, []) => .error .empty
        | (space, name) => .ok ⟨.ofList space, .ofList name⟩
    | _ => .ok { localName := s }

end AttributeName

/-- The attributes whose names are written as texts. -/
def Attributes.ofPairs? (pairs : List (String × String)) : Except NameError Attributes :=
  pairs.mapM fun pair => do return (← AttributeName.ofString? pair.1, pair.2)

end VCardKit.Html
