/-
  The gender of a card's subject: the sex, a single letter as a rule, and a free text on the gender
  identity. Version 4.0 only. The sex is read trimmed and in upper case, and either part is missing
  if it is empty.
-/
import VCardKit.Property.Basic

namespace VCardKit

/-- A sex and a gender identity, each of which may be missing. -/
structure Gender where
  sex : Option String := none
  identity : Option String := none
  deriving DecidableEq, Repr

namespace Gender

/-! ## Sexes -/

/-- The sexes that have a letter. -/
inductive Sex where
  | male
  | female
  | other
  | none
  | unknown
  deriving DecidableEq, Repr

def Sex.all : List Sex := [.male, .female, .other, .none, .unknown]

def Sex.letter : Sex → String
  | male => "M"
  | female => "F"
  | other => "O"
  | none => "N"
  | unknown => "U"

def Sex.name : Sex → String
  | male => "male"
  | female => "female"
  | other => "other"
  | none => "none"
  | unknown => "unknown"

/-- The gender with a sex and no identity. -/
def ofSex (s : Sex) : Gender := ⟨some s.letter, Option.none⟩

def isSex (g : Gender) (s : Sex) : Bool := g.sex == some s.letter

/-! ## Forms -/

/-- A text, or nothing if it is empty. -/
def nonEmpty (s : String) : Option String := if s = "" then Option.none else some s

/-- The sex that a text stands for. -/
def readSex (s : String) : Option String := nonEmpty (Text.upper (Text.strip s))

/-- The text form: the sex, and behind a semicolon the identity if there is one. -/
def toText (g : Gender) : String :=
  let sex := Text.escape (g.sex.getD "")
  match g.identity with
  | Option.none => sex
  | some identity => sex ++ ";" ++ Text.escape identity

def ofText (value : String) : Gender :=
  let parts := Text.split value ";"
  ⟨readSex (parts.headD ""), parts[1]?.bind nonEmpty⟩

def writeXml (p : Property Gender) (element : Xml.PropertyElement) (_ : Mode) :
    Attempt Failure (Gender × Xml.Element) Unit :=
  let element := element.append "sex" (some (p.content.sex.getD ""))
  match p.content.identity with
  | Option.none => .done () (p.content, element.element)
  | some identity => .done () (p.content, (element.append "identity" (some identity)).element)

def readXml (p : Property Gender) (element : Xml.PropertyElement) (_ : Mode) :
    Attempt Failure Gender (List String) :=
  match element.first? ["sex"] with
  | Option.none => .failed (.missing [.named "sex"]) p.content
  | some sex => .done [] ⟨readSex sex, element.first? ["identity"]⟩

/-- The tagged value: the sex alone, or the sex and the identity as components. -/
def toTagged (g : Gender) : TaggedValue :=
  match g.identity with
  | Option.none => .text (g.sex.getD "")
  | some identity => ⟨some .text, .structured [[g.sex.getD ""], [identity]]⟩

def ofTagged (value : TaggedValue) : Gender :=
  let components := value.asStructured
  ⟨readSex ((components.headD []).headD ""),
    nonEmpty (((components[1]?).getD []).headD "")⟩

def findings (p : Property Gender) (_ : Version) (_ : Option Card) : List Warning :=
  if p.content.sex.isNone then [.empty "Property has no sex value."] else []

instance : Content Gender where
  writeText p _ _ := .done p.content.toText p.content
  readText _ value _ _ := .done [] (ofText value)
  writeXml := writeXml
  readXml := readXml
  writeJson p _ := .done p.content.toTagged p.content
  readJson _ value _ := .done [] (ofTagged value)
  findings := findings
  isSupported _ version := version == .v4_0

end Gender

end VCardKit
