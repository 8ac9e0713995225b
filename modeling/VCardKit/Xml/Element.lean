/-
  XML elements, their tags, and the view that a property has of the element that belongs to it. The
  view shows the children whose tag has no namespace or that of the element; comments and foreign
  children are passed over. Children are only ever appended.
-/
import VCardKit.Version

namespace VCardKit.Xml

/-! ## Tags -/

/-- The namespace and the local name of a tag. The namespace ends at the first closing brace, or
with the tag if there is none. -/
def splitTag (tag : String) : Option String × String :=
  match tag.toList with
  | '\x7b' :: rest =>
    (some (.ofList (rest.takeWhile (· != '\x7d'))),
      .ofList ((rest.dropWhile (· != '\x7d')).drop 1))
  | _ => (none, tag)

/-- The tag of a local name in a namespace. -/
def qualify (ns name : String) : String := "\x7b" ++ ns ++ "\x7d" ++ name

/-! ## Trees -/

/-- A node inside an element: an element or a comment, each with the text that follows it. -/
inductive Node where
  | element (tag : String) (text : Option String) (children : List Node) (tail : Option String)
  | comment (text : String) (tail : Option String)
  deriving Inhabited

/-- An element that stands alone. -/
structure Element where
  tag : String
  text : Option String := none
  children : List Node := []
  deriving Inhabited

/-- A node that stands for itself. -/
inductive Root where
  | element (element : Element)
  | comment (text : String)
  deriving Inhabited

/-- The node without the text that follows it. -/
def Node.root : Node → Root
  | element tag text children _ => .element ⟨tag, text, children⟩
  | comment text _ => .comment text

namespace Root

/-- The tag; that of a comment is empty. -/
def tag : Root → String
  | element e => e.tag
  | comment _ => ""

/-- A node that no text follows. -/
def node : Root → Node
  | element e => .element e.tag e.text e.children none
  | comment text => .comment text none

end Root

/-! ## The element of a property -/

/-- The element that belongs to a property, in a card of the given version. -/
structure PropertyElement where
  element : Element
  version : Version := .v4_0

namespace PropertyElement

/-- The namespace of the element; an element without one counts as being in the vocabulary of
cards. -/
def nspace (e : PropertyElement) : String := (splitTag e.element.tag).1.getD xCardNamespace

/-- The local name and the text of a node that the view shows. -/
def visible? (ns : String) : Node → Option (String × String)
  | .comment _ _ => none
  | .element tag text _ _ =>
    match splitTag tag with
    | (none, name) => some (name, text.getD "")
    | (some space, name) => if space = ns then some (name, text.getD "") else none

/-- The local names and texts of the visible children, in document order. -/
def visible (e : PropertyElement) : List (String × String) :=
  e.element.children.filterMap (visible? e.nspace)

/-- The text of the first visible child with one of the names. -/
def first? (e : PropertyElement) (names : List String) : Option String :=
  (e.visible.find? fun c => names.contains c.1).map (·.2)

/-- The texts of all visible children with the name. -/
def all (e : PropertyElement) (name : String) : List String :=
  (e.visible.filter fun c => c.1 = name).map (·.2)

/-- The name and the text of the first visible child. -/
def firstValue? (e : PropertyElement) : Option (String × String) := e.visible.head?

/-- A new child with a text, in the namespace of the element. -/
def child (e : PropertyElement) (name : String) (value : Option String) : Node :=
  .element (qualify e.nspace name) value [] none

/-- The element with a new child at its end. -/
def append (e : PropertyElement) (name : String) (value : Option String) : PropertyElement :=
  { e with element := { e.element with children := e.element.children ++ [e.child name value] } }

/-- The element with one new child at its end for each value. -/
def appendAll (e : PropertyElement) (name : String) (values : List String) : PropertyElement :=
  values.foldl (fun e value => e.append name (some value)) e

end PropertyElement

end VCardKit.Xml
