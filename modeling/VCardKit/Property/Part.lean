/-
  Parts of a content that can be looked up and set one by one. A content that lacks a part is told
  from one whose part is missing.
-/
import VCardKit.Property.AnyContent

namespace VCardKit

/-- A part that is one text, which may be missing. -/
inductive TextPart where
  /-- The text of a property with one text. -/
  | value
  | sex
  | identity
  | url
  deriving DecidableEq, Repr

namespace AnyContent

/-! ## Texts -/

/-- The text of a part, if the content has the part. -/
def text? : AnyContent → TextPart → Option (Option String)
  | text _ c, .value => some c.value
  | raw c, .value => some c.value
  | echo c, .value => some c.value
  | gender _ c, .sex => some c.sex
  | gender _ c, .identity => some c.identity
  | agent c, .url => some c.url
  | _, _ => none

/-- The content with another text in a part; a content that lacks the part stays as it is. -/
def setText (content : AnyContent) (part : TextPart) (s : Option String) : AnyContent :=
  match content, part with
  | text kind c, .value => text kind { c with value := s }
  | raw c, .value => raw { c with value := s }
  | echo c, .value => echo { c with value := s }
  | gender kind c, .sex => gender kind { c with sex := s }
  | gender kind c, .identity => gender kind { c with identity := s }
  | agent c, .url => agent { c with url := s }
  | c, _ => c

/-! ## Lists and others -/

/-- The list of texts, if the content has one. -/
def values? : AnyContent → Option (List String)
  | categories c => some c.values
  | _ => none

/-- The content with another list of texts; a content without a list stays as it is. -/
def setValues (content : AnyContent) (values : List String) : AnyContent :=
  match content with
  | categories _ => categories ⟨values⟩
  | c => c

/-- The content with a text at the end of its list, if it has a list. -/
def addValue? (content : AnyContent) (value : String) : Option AnyContent :=
  match content with
  | categories c => some (categories (c.add value))
  | _ => none

/-- The sexes that hold, if the content has a sex. -/
def sexes? : AnyContent → Option (List Gender.Sex)
  | gender _ c => some (Gender.Sex.all.filter c.isSex)
  | _ => none

/-- The content with a nested card, if it takes one. -/
def attach? (content : AnyContent) (card : CardId) : Option AnyContent :=
  match content with
  | agent c => some (agent (c.attach card))
  | _ => none

end AnyContent

/-! ## Parameters -/

/-- A parameter to which a kind gives access by a name of its own. -/
inductive OwnParameter where
  | pref
  | index
  | language
  deriving DecidableEq, Repr

/-- Whether properties of a kind give access to a parameter by a name of its own. -/
def Kind.offers (k : Kind) : OwnParameter → Bool
  | .pref => k.isA .text || k.isA .categories
  | .index => k.isA .categories
  | .language => k.isA .text

end VCardKit
