/-
  Texts in quotes, as messages show them. The quote is the apostrophe, unless the text holds one
  and no double quote. Backslashes, the quote, and characters that are not printable are written as
  escapes.
-/
import VCardKit.Text.Blank
import VCardKit.Text.PrintableTable

namespace VCardKit.Text

def isPrintable (c : Char) : Bool := inRanges printableRanges c.toNat

/-- The lower-case hexadecimal digits of a number, padded on the left with zeros. -/
def hex (width n : Nat) : List Char :=
  let digits := Nat.toDigits 16 n
  List.replicate (width - digits.length) '0' ++ digits

/-- A character inside the given quotes. -/
def quotedChar (quote c : Char) : List Char :=
  if c = quote || c = '\\' then ['\\', c]
  else if c = '\n' then ['\\', 'n']
  else if c = '\r' then ['\\', 'r']
  else if c = '\t' then ['\\', 't']
  else if isPrintable c then [c]
  else if c.toNat < 0x100 then '\\' :: 'x' :: hex 2 c.toNat
  else if c.toNat < 0x10000 then '\\' :: 'u' :: hex 4 c.toNat
  else '\\' :: 'U' :: hex 8 c.toNat

/-- The quote around a text. -/
def quoteFor (cs : List Char) : Char :=
  if cs.contains '\'' && !cs.contains '"' then '"' else '\''

/-- A text in quotes. -/
def quoted (s : String) : String :=
  let quote := quoteFor s.toList
  .ofList (quote :: s.toList.flatMap (quotedChar quote) ++ [quote])

/-- Written items in square brackets. -/
def bracketed (items : List String) : String := "[" ++ ", ".intercalate items ++ "]"

/-- A list of texts, each in quotes. -/
def quotedList (items : List String) : String := bracketed (items.map quoted)

end VCardKit.Text
