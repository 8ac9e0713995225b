/-
  What a reader takes from a web page: an element or a comment, together with the address of the
  page, against which links are resolved. A comment has a value but no attributes. An address that
  holds a scheme and an authority may hold characters that no URL has; they are written as the bytes
  of their UTF-8 form. Any other address counts as the name of a file and stays as it is. An address
  ends at its first NUL.
-/
import VCardKit.Html.Element
import VCardKit.Url.Reference

namespace VCardKit.Url

/-! ## Addresses -/

/-- A character that a URL may hold: an unreserved or a reserved one, or a percent sign. -/
def isUrlChar (c : Char) : Bool := c.isAlphanum || "-_.~!$&'()*+,;=:/?#[]@%".toList.contains c

/-- A byte as a percent sign and two upper-case hexadecimal digits. -/
def escapedByte (b : UInt8) : List Char :=
  ['%', (Nat.digitChar (b.toNat / 16)).toUpper, (Nat.digitChar (b.toNat % 16)).toUpper]

/-- A character as a URL may hold it. -/
def escapedChar (c : Char) : List Char :=
  if isUrlChar c then [c] else (String.utf8EncodeChar c).flatMap escapedByte

/-- Whether a text holds the mark that stands between a scheme and an authority. -/
def holdsAuthorityMark : List Char → Bool
  | ':' :: '/' :: '/' :: _ => true
  | _ :: rest => holdsAuthorityMark rest
  | [] => false

/-- An address up to its first NUL. -/
def untilNull (address : String) : List Char := address.toList.takeWhile (· != '\x00')

/-- The address of a page with the characters that no URL has escaped. -/
def pageAddress (address : String) : String :=
  let cs := untilNull address
  .ofList (if holdsAuthorityMark cs then cs.flatMap escapedChar else cs)

end VCardKit.Url

namespace VCardKit.Html

open VCardKit.Text

/-! ## Nodes -/

/-- A node that stands for itself. -/
inductive Root where
  | element (element : Element)
  | comment (text : String)
  deriving Inhabited, DecidableEq, Repr

/-- The value of a node; that of a comment is its text. -/
def Root.value : Root → String
  | element e => e.value
  | comment text => .ofList (Element.tidyLines (collapse text.toList))

/-- A node and the base address of its page. -/
structure PageNode where
  root : Root
  address : Option String := none
  deriving Inhabited, DecidableEq, Repr

namespace PageNode

def value (p : PageNode) : String := p.root.value

/-- The absolute form of a link on the page; an empty link stays empty. -/
def resolve (p : PageNode) (link : String) : Except Url.UrlError String :=
  if link = "" then .ok "" else Url.resolve (.ofList (Url.untilNull (p.address.getD ""))) link

end PageNode

end VCardKit.Html
