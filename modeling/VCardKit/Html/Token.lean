/-
  Markup as a row of tokens, for fragments (`Root.ofMarkup?` says which markup that covers): texts,
  comments, and tags with attributes. A value of an attribute
  stands in quotes of either kind or ends at a blank; blanks may stand around the equals sign. Known
  are the character references for the markup characters and for code points; the semicolon of a
  reference may be missing. Every line break is a line feed, and a replacement character stands for
  a NUL. A reference to a code point that is no character gives the replacement character as well;
  one to a control of the upper range gives the character that the old Western code page has in its
  place.
-/
import VCardKit.Html.Attribute
import VCardKit.Text.Digit

namespace VCardKit.Html

open VCardKit.Text

/-- A piece of markup. -/
inductive Token where
  | text (value : String)
  | comment (value : String)
  /-- A start tag; `closed` says that a slash ends it. -/
  | startTag (name : String) (attributes : Attributes) (closed : Bool)
  | endTag (name : String)
  deriving Inhabited, DecidableEq, Repr

namespace Token

/-! ## Characters -/

/-- Markup with line feeds as its only line breaks and without NUL. -/
def normalize : List Char → List Char
  | [] => []
  | '\r' :: '\n' :: rest => '\n' :: normalize rest
  | '\r' :: rest => '\n' :: normalize rest
  | '\x00' :: rest => '\ufffd' :: normalize rest
  | c :: rest => c :: normalize rest

/-- The characters of the old Western code page at 0x80 to 0x9F, by their places there. -/
def westernChars : List (Nat × Char) :=
  [(0x80, '\u20ac'), (0x82, '\u201a'), (0x83, '\u0192'), (0x84, '\u201e'), (0x85, '\u2026'),
   (0x86, '\u2020'), (0x87, '\u2021'), (0x88, '\u02c6'), (0x89, '\u2030'), (0x8A, '\u0160'),
   (0x8B, '\u2039'), (0x8C, '\u0152'), (0x8E, '\u017d'), (0x91, '\u2018'), (0x92, '\u2019'),
   (0x93, '\u201c'), (0x94, '\u201d'), (0x95, '\u2022'), (0x96, '\u2013'), (0x97, '\u2014'),
   (0x98, '\u02dc'), (0x99, '\u2122'), (0x9A, '\u0161'), (0x9B, '\u203a'), (0x9C, '\u0153'),
   (0x9E, '\u017e'), (0x9F, '\u0178')]

/-- The character that a reference to a code point gives. -/
def charAt (n : Nat) : Char :=
  match westernChars.lookup n with
  | some c => c
  | none => if n = 0 ∨ ¬ n.isValidChar then '\ufffd' else Char.ofNat n

/-! ## References -/

/-- The names of the markup characters. -/
def markupChars : List (List Char × Char) :=
  [(['a', 'm', 'p'], '&'), (['l', 't'], '<'), (['g', 't'], '>'), (['q', 'u', 'o', 't'], '"')]

/-- How many characters a semicolon takes at the front of a text. -/
def semicolon (cs : List Char) : Nat := if cs.head? = some ';' then 1 else 0

/-- The character at the code point that the digits at the front of a text write, and how many
characters the reference takes. -/
def numbered? (base : Nat) (cs : List Char) : Option (Char × Nat) :=
  let digits := cs.takeWhile (isDigitIn base)
  (numberIn? base digits).map fun n =>
    (charAt n, digits.length + semicolon (cs.drop digits.length))

/-- The character whose name stands at the front of a text, and how many characters the reference
takes. In an attribute a name that goes on, or an equals sign behind it, makes it no reference. -/
def named? (inAttribute : Bool) (cs : List Char) : Option (Char × Nat) :=
  (markupChars.find? fun known => known.1.isPrefixOf cs).bind fun (name, c) =>
    let rest := cs.drop name.length
    if inAttribute && rest.head?.any fun d => d.isAlphanum || d = '=' then none
    else some (c, name.length + semicolon rest)

/-- The character of the reference behind an ampersand, and how many characters the reference
takes. -/
def referred? (inAttribute : Bool) : List Char → Option (Char × Nat)
  | '#' :: 'x' :: rest | '#' :: 'X' :: rest => (numbered? 16 rest).map fun f => (f.1, f.2 + 2)
  | '#' :: rest => (numbered? 10 rest).map fun f => (f.1, f.2 + 1)
  | cs => named? inAttribute cs

/-- A text with its character references replaced. -/
def decode (inAttribute : Bool) (cs : List Char) : List Char :=
  match cs with
  | [] => []
  | c :: rest =>
    match if c = '&' then referred? inAttribute rest else none with
    | some (d, count) => d :: decode inAttribute (rest.drop count)
    | none => c :: decode inAttribute rest
termination_by cs.length
decreasing_by
  · simp only [List.length_drop, List.length_cons]
    omega
  · simp

/-! ## Tags -/

/-- A blank between the parts of a tag. -/
def isTagBlank (c : Char) : Bool := c.isWhitespace || c = '\x0c'

/-- A character of the name of a tag. -/
def isTagChar (c : Char) : Bool := !(isTagBlank c || c = '/' || c = '>')

/-- A character of the name of an attribute behind the first. -/
def isAttributeChar (c : Char) : Bool := isTagChar c && c != '='

/-- A character of a value without quotes. -/
def isValueChar (c : Char) : Bool := !(isTagBlank c || c = '>')

/-- A name in lower case. -/
def name (cs : List Char) : String := .ofList (cs.map Char.toLower)

/-- The value behind an equals sign, as it is written, and the text behind the value. -/
def writtenValue (cs : List Char) : List Char × List Char :=
  match cs.dropWhile isTagBlank with
  | '"' :: rest => cutAt (· = '"') rest
  | '\'' :: rest => cutAt (· = '\'') rest
  | rest => (rest.takeWhile isValueChar, rest.dropWhile isValueChar)

/-- The value behind the name of an attribute, empty if there is none, and the text behind it. -/
def attributeValue (cs : List Char) : String × List Char :=
  match cs.dropWhile isTagBlank with
  | '=' :: rest => (.ofList (decode true (writtenValue rest).1), (writtenValue rest).2)
  | _ => ("", cs)

theorem length_writtenValue_le (cs : List Char) : (writtenValue cs).2.length ≤ cs.length := by
  have h := length_dropWhile_le isTagBlank cs
  unfold writtenValue
  split
  next rest e =>
    have := length_cutAt_le (· = '"') rest
    simp only [e, List.length_cons] at h
    omega
  next rest e =>
    have := length_cutAt_le (· = '\'') rest
    simp only [e, List.length_cons] at h
    omega
  next => exact Nat.le_trans (length_dropWhile_le _ _) h

theorem length_attributeValue_le (cs : List Char) : (attributeValue cs).2.length ≤ cs.length := by
  have h := length_dropWhile_le isTagBlank cs
  unfold attributeValue
  split
  next rest e =>
    simp only [e, List.length_cons] at h
    exact Nat.le_trans (length_writtenValue_le rest) (Nat.le_of_succ_le h)
  next => exact Nat.le_refl _

/-- The attributes of a start tag up to its end, whether a slash ends it, and the text behind it,
which is no longer. -/
def attributes (cs : List Char) :
    Attributes × Bool × { rest : List Char // rest.length ≤ cs.length } :=
  match cs with
  | [] => ([], false, ⟨[], Nat.le_refl _⟩)
  | '>' :: rest => ([], false, ⟨rest, Nat.le_succ _⟩)
  | '/' :: '>' :: rest => ([], true, ⟨rest, Nat.le_succ_of_le (Nat.le_succ _)⟩)
  | c :: rest =>
    if isTagChar c then
      let value := attributeValue (rest.dropWhile isAttributeChar)
      have h : value.2.length ≤ rest.length :=
        Nat.le_trans (length_attributeValue_le _) (length_dropWhile_le _ _)
      let (more, closed, ⟨tail, ht⟩) := attributes value.2
      (({ localName := name (c :: rest.takeWhile isAttributeChar) }, value.1) :: more, closed,
        ⟨tail, Nat.le_succ_of_le (Nat.le_trans ht h)⟩)
    else
      let (more, closed, ⟨tail, ht⟩) := attributes rest
      (more, closed, ⟨tail, Nat.le_succ_of_le ht⟩)
termination_by cs.length
decreasing_by
  · exact Nat.lt_succ_of_le h
  · exact Nat.lt_succ_self _

/-! ## Comments -/

/-- The text of a comment up to its end mark, and the text behind the mark. -/
def commentText : List Char → List Char × List Char
  | '-' :: '-' :: '>' :: rest => ([], rest)
  | '-' :: '-' :: '!' :: '>' :: rest => ([], rest)
  | [] => ([], [])
  | c :: rest => ((c :: (commentText rest).1), (commentText rest).2)

/-- The text of a comment behind its start mark; the end mark may overlap the start mark. -/
def commentBody : List Char → List Char × List Char
  | '>' :: rest => ([], rest)
  | '-' :: '>' :: rest => ([], rest)
  | cs => commentText cs

theorem length_commentText_le (cs : List Char) : (commentText cs).2.length ≤ cs.length := by
  fun_induction commentText cs <;> simp_all <;> omega

theorem length_commentBody_le (cs : List Char) : (commentBody cs).2.length ≤ cs.length := by
  unfold commentBody
  split
  · simp
  · simp only [List.length_cons]; omega
  · exact length_commentText_le _

/-! ## Rows of tokens -/

/-- The tokens of markup. An end tag may have attributes, which say nothing, and one without a name
is nothing. What begins like a tag or a comment and is neither is a comment up to the next closing
angle bracket; an angle bracket that begins nothing is text. -/
def scan (cs : List Char) : List Token :=
  match cs with
  | [] => []
  | '<' :: '!' :: '-' :: '-' :: rest =>
    comment (.ofList (commentBody rest).1) :: scan (commentBody rest).2
  | '<' :: '/' :: '>' :: rest => scan rest
  | '<' :: '/' :: c :: rest =>
    if c.isAlpha then
      let (_, _, ⟨tail, _⟩) := attributes (rest.dropWhile isTagChar)
      endTag (name (c :: rest.takeWhile isTagChar)) :: scan tail
    else
      comment (.ofList (cutAt (· = '>') (c :: rest)).1) :: scan (cutAt (· = '>') (c :: rest)).2
  | '<' :: c :: rest =>
    if c.isAlpha then
      let (found, closed, ⟨tail, _⟩) := attributes (rest.dropWhile isTagChar)
      startTag (name (c :: rest.takeWhile isTagChar)) found closed :: scan tail
    else if c = '!' || c = '?' then
      comment (.ofList (cutAt (· = '>') rest).1) :: scan (cutAt (· = '>') rest).2
    else text "<" :: scan (c :: rest)
  | c :: rest =>
    text (.ofList (decode false (c :: rest.takeWhile (· != '<'))))
      :: scan (rest.dropWhile (· != '<'))
termination_by cs.length
decreasing_by
  · have := length_commentBody_le rest
    simp only [List.length_cons]
    omega
  · simp only [List.length_cons]
    omega
  · have := length_dropWhile_le isTagChar rest
    simp only [List.length_cons]
    omega
  · have := length_cutAt_le (· = '>') (c :: rest)
    simp only [List.length_cons] at this ⊢
    omega
  · have := length_dropWhile_le isTagChar rest
    simp only [List.length_cons]
    omega
  · have := length_cutAt_le (· = '>') rest
    simp only [List.length_cons]
    omega
  · simp
  · exact Nat.lt_succ_of_le (length_dropWhile_le _ _)

/-- The tokens of a markup text. -/
def ofMarkup (markup : String) : List Token := scan (normalize markup.toList)

end Token

end VCardKit.Html
