/-
  The escaping of text values in a content line. A backslash stands before a backslash, a comma
  and a semicolon, and a line break of any kind is written as a backslash and the letter n. Reading
  is lenient: a backslash before any other character is dropped, and one at the very end stands for
  itself. So reading what was written gives the text with its line breaks normalised.
-/
namespace VCardKit.Text

/-! ## Line breaks -/

/-- Every line break (CR LF, a lone CR, a lone LF) as one LF, on characters. -/
def normalizeBreaksChars : List Char → List Char
  | [] => []
  | '\r' :: '\n' :: rest => '\n' :: normalizeBreaksChars rest
  | c :: rest => (if c = '\r' then '\n' else c) :: normalizeBreaksChars rest

/-- Every line break (CR LF, a lone CR, a lone LF) as one LF. -/
def normalizeBreaks (s : String) : String := .ofList (normalizeBreaksChars s.toList)

/-! ## Writing -/

/-- The characters that are written behind a backslash as themselves. -/
def needsBackslash (c : Char) : Bool := c = '\\' || c = ',' || c = ';'

/-- The wire form of one character. -/
def escapeChar (c : Char) : List Char :=
  if needsBackslash c then ['\\', c]
  else if c = '\r' || c = '\n' then ['\\', 'n']
  else [c]

/-- The wire form of a text, on characters. -/
def escapeChars : List Char → List Char
  | [] => []
  | '\r' :: '\n' :: rest => '\\' :: 'n' :: escapeChars rest
  | c :: rest => escapeChar c ++ escapeChars rest

/-- The wire form of a text. -/
def escape (s : String) : String := .ofList (escapeChars s.toList)

/-! ## Reading -/

/-- What a backslash and the given character stand for. -/
def unescapeChar (c : Char) : Char := if c = 'n' || c = 'N' then '\n' else c

/-- The text that a wire form stands for, on characters. -/
def unescapeChars : List Char → List Char
  | [] => []
  | ['\\'] => ['\\']
  | '\\' :: c :: rest => unescapeChar c :: unescapeChars rest
  | c :: rest => c :: unescapeChars rest

/-- The text that a wire form stands for. -/
def unescape (s : String) : String := .ofList (unescapeChars s.toList)

end VCardKit.Text
