/-
  HTML elements of a microformat and their text values. Siblings form a forest, so one structural
  recursion walks a whole document. Two things are no part of it. A walk has room on the stack for
  elements of any depth; those that a page can hold are at most 256 deep. And a text is a row of
  Unicode scalar values, so there are no lone surrogates in it.
-/
import VCardKit.Html.Attribute
import VCardKit.Text.Case

namespace VCardKit.Html

open VCardKit.Text

/-! ## Trees -/

/-- A row of siblings, each with the text that follows it. -/
inductive Forest where
  | nil
  | element (tag : String) (attributes : Attributes) (text : String)
      (children : Forest) (tail : String) (rest : Forest)
  | comment (text tail : String) (rest : Forest)
  deriving Inhabited, DecidableEq, Repr

/-- An element. The text stands in front of its first child. -/
structure Element where
  tag : String
  attributes : Attributes := []
  text : String := ""
  children : Forest := .nil
  deriving Inhabited, DecidableEq, Repr

/-! ## Elements -/

namespace Element

/-- The tag in lower case. -/
def tagName (e : Element) : String := lower e.tag

/-- The value of an attribute; the empty text if it is absent. -/
def attrNamed (e : Element) (name : AttributeName) : String := (e.attributes.lookup name).getD ""

/-- The value of an attribute without a namespace. -/
def attr (e : Element) (name : String) : String := e.attrNamed { localName := name }

/-- The value of an attribute whose name is written as a text; a text that is no name is
refused. -/
def attr? (e : Element) (name : String) : Except NameError String :=
  (AttributeName.ofString? name).map e.attrNamed

/-- The words of the class attribute. -/
def classNames (e : Element) : List String := words (e.attr "class")

def hasClass (e : Element) (name : String) : Bool := e.classNames.contains name

/-- The title of an abbreviation, which stands for its content. -/
def title? (e : Element) : Option String :=
  if e.tagName = "abbr" && e.attr "title" != "" then some (e.attr "title") else none

/-- Whether the content of an element never reaches a value: deleted text, and the name of the type
of a value. -/
def isHidden (e : Element) : Bool := e.tagName = "del" || e.hasClass "type"

end Element

namespace Forest

/-! ## Walks -/

/-- All elements below, in document order. -/
def elements : Forest → List Element
  | nil => []
  | element tag attributes text children _ rest =>
    ⟨tag, attributes, text, children⟩ :: (children.elements ++ rest.elements)
  | comment _ _ rest => rest.elements

/-- The elements below that carry a class and are not inside another such element, in document
order. -/
def outermost (name : String) : Forest → List Element
  | nil => []
  | element tag attributes text children _ rest =>
    let e : Element := ⟨tag, attributes, text, children⟩
    if e.hasClass name then e :: rest.outermost name
    else children.outermost name ++ rest.outermost name
  | comment _ _ rest => rest.outermost name

/-- The text below, with every run of blanks collapsed in each piece. A line break element is a
line feed; hidden elements and comments give nothing, but what follows them counts. -/
def visibleText : Forest → List Char
  | nil => []
  | element tag attributes text children tail rest =>
    let e : Element := ⟨tag, attributes, text, children⟩
    let own :=
      if e.tagName = "br" then ['\n']
      else if e.isHidden then []
      else collapse text.toList ++ children.visibleText
    own ++ collapse tail.toList ++ rest.visibleText
  | comment _ tail rest => collapse tail.toList ++ rest.visibleText

end Forest

namespace Element

/-! ## Values -/

/-- A text with every line trimmed and no blanks at both ends. -/
def tidyLines (cs : List Char) : List Char :=
  trim (['\n'].intercalate ((pieces (· = '\n') cs).map trim))

/-- The text of an element and of all below it that is not hidden. -/
def visibleText (e : Element) : List Char := collapse e.text.toList ++ e.children.visibleText

/-- The value of an element that is not looked into for parts. -/
def ownValue (e : Element) : String :=
  match e.title? with
  | some title => title
  | none => .ofList (tidyLines e.visibleText)

/-- The parts of the value: the outermost elements below that carry the class `value`. -/
def valueParts (e : Element) : List Element := e.children.outermost "value"

/-- The value of an element: the title of an abbreviation, else the values of its parts in a row,
else its own. -/
def value (e : Element) : String :=
  match e.title?, e.valueParts with
  | some title, _ => title
  | none, [] => e.ownValue
  | none, parts => strip (String.join (parts.map ownValue))

/-- The elements below that carry a class, in document order. -/
def withClass (e : Element) (name : String) : List Element :=
  e.children.elements.filter (·.hasClass name)

/-- The value of the first element below that carries a class. -/
def firstValue? (e : Element) (name : String) : Option String :=
  ((e.withClass name).head?).map value

/-- The values of all elements below that carry a class. -/
def allValues (e : Element) (name : String) : List String := (e.withClass name).map value

/-- The names of the types of a value, in lower case. -/
def types (e : Element) : List String := (e.allValues "type").map lower

end Element

end VCardKit.Html
