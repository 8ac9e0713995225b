/-
  The elements that the tokens of a fragment open and close. A link does not stand directly in a
  link: the second one closes the first. An end tag closes the innermost element of its name and all
  inside it, but looks for that name only inside the innermost block; one that finds none is
  ignored. The nesting is limited, and a start tag beyond the limit ends the reading.
-/
import VCardKit.Html.Element
import VCardKit.Html.Token

namespace VCardKit.Html

/-- A part of the content of an element. -/
inductive Piece where
  | text (value : String)
  | comment (value : String)
  | element (element : Element)
  deriving Inhabited, DecidableEq, Repr

/-- The content that pieces make: the first text and the nodes behind it. The pieces come with the
last one first. -/
def Piece.assemble (pieces : List Piece) : String × Forest :=
  pieces.foldl (fun (front, nodes) piece =>
    match piece with
    | .text value => (value ++ front, nodes)
    | .comment value => ("", .comment value front nodes)
    | .element e => ("", .element e.tag e.attributes e.text e.children front nodes)) ("", .nil)

/-- An element whose end tag is still to come, with its content so far, the last piece first. -/
structure OpenElement where
  tag : String
  attributes : Attributes
  content : List Piece := []
  deriving Inhabited, DecidableEq, Repr

/-- The element with the content so far. -/
def OpenElement.close (e : OpenElement) : Element :=
  let (text, children) := Piece.assemble e.content
  ⟨e.tag, e.attributes, text, children⟩

/-- What the tokens so far make. -/
structure Outline where
  /-- The open elements, the innermost first. -/
  opened : List OpenElement := []
  /-- The content outside all open elements, the last piece first. -/
  content : List Piece := []
  /-- Whether the reading has ended. -/
  ended : Bool := false
  deriving Inhabited, DecidableEq, Repr

namespace Outline

/-- How many elements may be open at a time: a page has at most 256, two of them outside its
content. -/
def depthLimit : Nat := 254

/-- The tags that have no content and no end tag. -/
def isVoid (tag : String) : Bool := tag = "br"

/-- The tags of blocks. -/
def isBlock (tag : String) : Bool := tag = "div"

/-- Whether a start tag closes the element in which it stands. -/
def closes (tag outer : String) : Bool := tag = "a" && outer = "a"

/-- Adds a piece to the innermost open element. -/
def add (o : Outline) (piece : Piece) : Outline :=
  match o.opened with
  | [] => { o with content := piece :: o.content }
  | e :: rest => { o with opened := { e with content := piece :: e.content } :: rest }

/-- Closes the innermost open element. -/
def closeInnermost (o : Outline) : Outline :=
  match o.opened with
  | [] => o
  | e :: rest => { o with opened := rest }.add (.element e.close)

/-- Closes some open elements, from the innermost on. -/
def close : Nat → Outline → Outline
  | 0, o => o
  | n + 1, o => close n o.closeInnermost

/-- How many elements an end tag closes. -/
def closedBy? (tag : String) : List OpenElement → Option Nat
  | [] => none
  | e :: rest =>
    if e.tag = tag then some 1
    else if isBlock e.tag && !isBlock tag then none
    else (closedBy? tag rest).map (· + 1)

/-- Adds an element without content, or opens one. -/
def start (o : Outline) (tag : String) (attributes : Attributes) (closed : Bool) :
    Outline :=
  let o := if o.opened.head?.any fun e => closes tag e.tag then o.closeInnermost else o
  if depthLimit ≤ o.opened.length then { o with ended := true }
  else if closed || isVoid tag then o.add (.element { tag, attributes })
  else { o with opened := { tag, attributes } :: o.opened }

/-- What a token changes. -/
def step (o : Outline) (token : Token) : Outline :=
  if o.ended then o
  else
    match token with
    | .text value => o.add (.text value)
    | .comment value => o.add (.comment value)
    | .startTag name attributes closed => o.start name attributes closed
    | .endTag name => close ((closedBy? name o.opened).getD 0) o

def ofTokens (tokens : List Token) : Outline := tokens.foldl step {}

/-- The first text and the nodes behind it, all open elements being closed. -/
def contents (o : Outline) : String × Forest := Piece.assemble (close o.opened.length o).content

end Outline

end VCardKit.Html
