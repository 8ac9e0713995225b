/-
  Reading the scalars of a TOML document from the front of a text: strings of the four forms, keys,
  and numbers. A number ends where no longer number is possible; what follows is for the caller to
  accept or refuse.
-/
import VCardKit.Decimal.Integer
import VCardKit.Decimal.Numeral
import VCardKit.Toml.Value

namespace VCardKit.Toml

open VCardKit.Text

/-- What was read from the front of a text, and the rest of the text. -/
abbrev Found (α : Type) := α × List Char

def isSpace (c : Char) : Bool := c = ' ' || c = '\t'

def skipSpaces (cs : List Char) : List Char := cs.dropWhile isSpace

/-! ## Escapes -/

/-- What a letter behind a backslash stands for. -/
def escaped? : Char → Option Char
  | 'b' => some '\x08'
  | 't' => some '\t'
  | 'n' => some '\n'
  | 'f' => some '\x0c'
  | 'r' => some '\r'
  | '"' => some '"'
  | '\\' => some '\\'
  | _ => none

/-- The character with the code point that hexadecimal digits write. Surrogates are none. -/
def codePoint? (digits : List Char) : Option Char :=
  (numberIn? 16 digits).bind fun n =>
    if n < 0xD800 || (0xDFFF < n && n < 0x110000) then some (Char.ofNat n) else none

/-- Puts a character in front of the characters that were found. -/
def prepend (c : Char) (found : Option (Found (List Char))) : Option (Found (List Char)) :=
  found.map fun f => (c :: f.1, f.2)

/-! ## Strings -/

/-- Whether only spaces stand in front of the end of the line. -/
def endsLine (cs : List Char) : Bool := (skipSpaces cs).head? = some '\n'

/-- The characters of a string with escapes, up to the quotes that close it. In a string of several
lines a backslash at the end of a line hides the line break and all blanks that follow; `joining`
holds behind such a backslash. -/
def basicChars (multi : Bool) (joining : Bool) : List Char → Option (Found (List Char))
  | [] => none
  | '"' :: rest =>
    if !multi then some ([], rest)
    else
      match rest with
      | '"' :: '"' :: rest => some ([], rest)
      | rest => prepend '"' (basicChars multi false rest)
  | '\\' :: 'u' :: a :: b :: c :: d :: rest =>
    (codePoint? [a, b, c, d]).bind fun x => prepend x (basicChars multi false rest)
  | '\\' :: 'U' :: a :: b :: c :: d :: e :: f :: g :: h :: rest =>
    (codePoint? [a, b, c, d, e, f, g, h]).bind fun x => prepend x (basicChars multi false rest)
  | '\\' :: c :: rest =>
    if multi && endsLine (c :: rest) then basicChars multi true rest
    else (escaped? c).bind fun x => prepend x (basicChars multi false rest)
  | c :: rest =>
    if joining && (isSpace c || c = '\n') then basicChars multi true rest
    else if isControl c && !(multi && c = '\n') then none
    else prepend c (basicChars multi false rest)

/-- The characters of a string without escapes, up to the quotes that close it. -/
def literalChars (multi : Bool) : List Char → Option (Found (List Char))
  | [] => none
  | '\'' :: rest =>
    if !multi then some ([], rest)
    else
      match rest with
      | '\'' :: '\'' :: rest => some ([], rest)
      | rest => prepend '\'' (literalChars multi rest)
  | c :: rest =>
    if isControl c && !(multi && c = '\n') then none
    else prepend c (literalChars multi rest)

/-- A string of several lines may end in up to two quotes more than close it. -/
def withQuotes (quote : Char) (found : Found (List Char)) : Found (List Char) :=
  let extra := (found.2.takeWhile (· = quote)).take 2
  (found.1 ++ extra, found.2.drop extra.length)

/-- The text behind the line break that may follow the quotes that open a string of several
lines. -/
def skipBreak : List Char → List Char
  | '\n' :: rest => rest
  | cs => cs

/-- A string on one line. -/
def line? : List Char → Option (Found String)
  | '"' :: rest => (basicChars false false rest).map fun f => (.ofList f.1, f.2)
  | '\'' :: rest => (literalChars false rest).map fun f => (.ofList f.1, f.2)
  | _ => none

/-- A string of any form. -/
def string? : List Char → Option (Found String)
  | '"' :: '"' :: '"' :: rest =>
    (basicChars true false (skipBreak rest)).map fun f =>
      let f := withQuotes '"' f
      (.ofList f.1, f.2)
  | '\'' :: '\'' :: '\'' :: rest =>
    (literalChars true (skipBreak rest)).map fun f =>
      let f := withQuotes '\'' f
      (.ofList f.1, f.2)
  | cs => line? cs

/-! ## Keys -/

def isBareKeyChar (c : Char) : Bool := c.isAlphanum || c = '-' || c = '_'

/-- One part of a key. -/
def keyPart? (cs : List Char) : Option (Found String) :=
  match cs.takeWhile isBareKeyChar with
  | [] => line? cs
  | name => some (.ofList name, cs.dropWhile isBareKeyChar)

/-- A key: parts with points between them, and the spaces behind. No key has more than `fuel`
parts. -/
def key? : Nat → List Char → Option (Found (List String))
  | 0, _ => none
  | fuel + 1, cs => do
    let (name, rest) ← keyPart? cs
    match skipSpaces rest with
    | '.' :: rest =>
      let (names, rest) ← key? fuel (skipSpaces rest)
      return (name :: names, rest)
    | rest => return ([name], rest)

/-! ## Numbers -/

/-- The longest run of digits in which single underscores may stand between digits. -/
def digitGroup (p : Char → Bool) : List Char → Found (List Char)
  | [] => ([], [])
  | [c] => if p c then ([c], []) else ([], [c])
  | c :: d :: rest =>
    if !p c then ([], c :: d :: rest)
    else if d = '_' then
      match digitGroup p rest with
      | ([], _) => ([c], d :: rest)
      | (ds, rest) => (c :: ds, rest)
    else
      let (ds, rest) := digitGroup p (d :: rest)
      (c :: ds, rest)

/-- The digits of a whole number: zero alone, or digits of which the first is not zero. -/
def wholeDigits : List Char → Found (List Char)
  | '0' :: rest => (['0'], rest)
  | cs => digitGroup Char.isDigit cs

/-- The digits of a fraction; none, and the whole text, if there is no fraction. -/
def fractionDigits (cs : List Char) : Found (List Char) :=
  match cs with
  | '.' :: rest =>
    match digitGroup Char.isDigit rest with
    | ([], _) => ([], cs)
    | found => found
  | _ => ([], cs)

/-- The exponent, if there is one. -/
def exponentPart (cs : List Char) : Found (Option Int) :=
  match cs with
  | mark :: rest =>
    if mark = 'e' || mark = 'E' then
      let (negative, rest) := Decimal.signed rest
      match digitGroup Char.isDigit rest with
      | ([], _) => (none, cs)
      | (ds, rest) =>
        let n : Int := Decimal.asciiNumber ds
        (some (if negative then -n else n), rest)
    else (none, cs)
  | [] => (none, cs)

/-- A number in a base other than ten, behind its mark. -/
def based? (base : Nat) (cs : List Char) : Option (Found Value) :=
  let (digits, rest) := digitGroup (isDigitIn base) cs
  (numberIn? base digits).map fun n => (.integer n, rest)

/-- A number in one of the bases that have a mark. -/
def marked? : List Char → Option (Found Value)
  | '0' :: 'x' :: rest => based? 16 rest
  | '0' :: 'o' :: rest => based? 8 rest
  | '0' :: 'b' :: rest => based? 2 rest
  | _ => none

/-- The value of a decimal number, given its parts. -/
def decimalValue (negative : Bool) (whole fraction : List Char) (exponent : Option Int) :
    Except Refusal Value :=
  if fraction.isEmpty && exponent.isNone then
    if whole.length ≤ Decimal.digitLimit then
      let n : Int := Decimal.asciiNumber whole
      .ok (.integer (if negative then -n else n))
    else .error (.tooManyDigits whole.length)
  else
    let x := Decimal.nearestFloat (Decimal.asciiNumber (whole ++ fraction))
      (exponent.getD 0 - fraction.length)
    .ok (.float (if negative then -x else x))

/-- A number behind its sign, or one of the words for infinity and for no number. -/
def unsigned (negative : Bool) : List Char → Except Refusal (Found Value)
  | 'i' :: 'n' :: 'f' :: rest =>
    .ok (.float (if negative then -(1.0 / 0.0) else 1.0 / 0.0), rest)
  | 'n' :: 'a' :: 'n' :: rest => .ok (.float (0.0 / 0.0), rest)
  | cs =>
    match wholeDigits cs with
    | ([], _) => .error .malformed
    | (whole, rest) =>
      let (fraction, rest) := fractionDigits rest
      let (exponent, rest) := exponentPart rest
      (decimalValue negative whole fraction exponent).map fun v => (v, rest)

/-- A number. -/
def number (cs : List Char) : Except Refusal (Found Value) :=
  match marked? cs with
  | some found => .ok found
  | none =>
    let (negative, rest) := Decimal.signed cs
    unsigned negative rest

end VCardKit.Toml
