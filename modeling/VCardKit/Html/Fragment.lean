/-
  Fragments: markup that is one element or one comment. Text beside it is refused unless it is
  blank. This reader of markup stands in for the parser of a whole page and covers what fragments of
  a microformat are made of: tags with attributes, comments, and references to code points and to
  four markup characters, where `br` alone has no content, `div` alone is a block, and no tag but
  that of a link closes another element. Not covered are the other void tags and blocks, tags that
  stand for others that are left out (paragraphs, items of lists, parts of tables), raw text such as
  that of scripts, document types and the other named references. Readers of properties take a
  `PageNode`, whatever it comes from, and no result about them rests on this reader.
-/
import VCardKit.Html.Outline
import VCardKit.Html.Page
import VCardKit.Text.Quoted

namespace VCardKit.Html

open VCardKit.Text

/-- Why markup is no fragment. -/
inductive FragmentError where
  | noElement
  | leadingText (text : String)
  | severalElements (tags : List String)
  | trailingText (text : String)
  deriving DecidableEq, Repr

def FragmentError.message : FragmentError → String
  | noElement => "No elements found"
  | leadingText text => "There is leading text: " ++ quoted text
  | severalElements tags => "Multiple elements found (" ++ ", ".intercalate tags ++ ")"
  | trailingText text => "Element followed by text: " ++ quoted text

/-- The names of the nodes of a forest. -/
def Forest.names : Forest → List String
  | nil => []
  | element tag _ _ _ _ rest => tag :: rest.names
  | comment _ _ rest => "comment" :: rest.names

/-- A node with the text that follows it, which has to be blank. -/
def Root.followedBy? (root : Root) (tail : String) : Except FragmentError Root :=
  if strip tail = "" then .ok root else .error (.trailingText tail)

/-- The node that makes up a fragment. -/
def Root.ofMarkup? (markup : String) : Except FragmentError Root :=
  let (text, nodes) := (Outline.ofTokens (Token.ofMarkup markup)).contents
  if strip text != "" then .error (.leadingText text)
  else
    match nodes with
    | .nil => .error .noElement
    | .element tag attributes text children tail .nil =>
      (Root.element ⟨tag, attributes, text, children⟩).followedBy? tail
    | .comment text tail .nil => (Root.comment text).followedBy? tail
    | nodes => .error (.severalElements nodes.names)

/-- The node that makes up a fragment of a page at an address. -/
def PageNode.ofMarkup? (markup : String) (address : Option String) :
    Except FragmentError PageNode :=
  (Root.ofMarkup? markup).map fun root => ⟨root, address.map Url.pageAddress⟩

end VCardKit.Html
