/-
  The kinds of properties. A kind has a label, and all but the most general one are special cases of
  another kind.
-/
namespace VCardKit

/-- A kind of property; `property` is the most general. -/
inductive Kind where
  | property
  | text
  | formattedName
  | note
  | title
  | categories
  | gender
  | otherGender
  | agent
  | raw
  | echo
  | adjusting
  | validating
  | namespaced
  | namespacedTwin
  | failing
  | skipping
  deriving DecidableEq, Repr

namespace Kind

def all : List Kind :=
  [.property, .text, .formattedName, .note, .title, .categories, .gender, .otherGender, .agent,
   .raw, .echo, .adjusting, .validating, .namespaced, .namespacedTwin, .failing, .skipping]

theorem mem_all (k : Kind) : k ∈ all := by cases k <;> decide

/-- The label of a kind. -/
def label : Kind → String
  | property => "VCardProperty"
  | text => "TextProperty"
  | formattedName => "FormattedName"
  | note => "Note"
  | title => "Title"
  | categories => "Categories"
  | gender => "Gender"
  | otherGender => "OtherGender"
  | agent => "Agent"
  | raw => "RawProperty"
  | echo => "EchoProperty"
  | adjusting => "RewritingProperty"
  | validating => "ValidatingProperty"
  | namespaced => "NamespacedProperty"
  | namespacedTwin => "NamespacedTwin"
  | failing => "SignalProperty"
  | skipping => "SkippingProperty"

/-- The kind of which a kind is a special case. -/
def parent? : Kind → Option Kind
  | property => none
  | formattedName | note | title => some text
  | otherGender => some gender
  | adjusting | validating | namespaced | namespacedTwin => some echo
  | skipping => some failing
  | _ => some property

/-- Whether a kind is another one or, at some remove, a special case of it. -/
def isA (k general : Kind) : Bool :=
  k = general || general = property || k.parent? = some general

/-- The name that properties of a kind bear, where the kind fixes it. -/
def typeName? : Kind → Option String
  | property | text | raw => none
  | formattedName => some "FN"
  | note => some "NOTE"
  | title => some "TITLE"
  | categories => some "CATEGORIES"
  | gender | otherGender => some "GENDER"
  | agent => some "AGENT"
  | echo => some "X-ECHO"
  | adjusting => some "X-REWRITE"
  | validating => some "X-VALIDATE"
  | namespaced => some "X-Namespaced"
  | namespacedTwin => some "X-TWIN"
  | failing => some "X-SIGNAL"
  | skipping => some "X-SKIP"

end Kind

end VCardKit
