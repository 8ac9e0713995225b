/-
  Lists of values in one text. Splitting looks at delimiters outside escapes only: the character
  behind a backslash never ends a part, and both stay in the part until it is unescaped. Joining is
  plain; values that may hold a delimiter are escaped before they are joined.
-/
import VCardKit.Text.Blank
import VCardKit.Text.Escape

namespace VCardKit.Text

/-- The parts of a text between the unescaped characters that satisfy `isDelimiter`. Escapes are
left as they are. A backslash never delimits. -/
def splitChars (isDelimiter : Char → Bool) : List Char → List (List Char)
  | [] => [[]]
  | ['\\'] => [['\\']]
  | '\\' :: c :: rest => consFirst '\\' (consFirst c (splitChars isDelimiter rest))
  | c :: rest =>
    if isDelimiter c then [] :: splitChars isDelimiter rest
    else consFirst c (splitChars isDelimiter rest)

/-- A delimiter is compared with single characters, so only a text of one character ever
matches. -/
def isDelimiter (delimiter : String) (c : Char) : Bool := delimiter.toList = [c]

/-- The parts between unescaped delimiters, with their escapes. -/
def splitRaw (value delimiter : String) : List String :=
  (splitChars (isDelimiter delimiter) value.toList).map .ofList

/-- The parts between unescaped delimiters, each unescaped. -/
def split (value delimiter : String) : List String := (splitRaw value delimiter).map unescape

/-- The rendered values with the delimiter between them. -/
def join {α : Type} (render : α → String) (delimiter : String) (values : List α) : String :=
  delimiter.intercalate (values.map render)

/-- The escaped values with the delimiter between them. -/
def joinEscaped (delimiter : String) (values : List String) : String := join escape delimiter values

end VCardKit.Text
