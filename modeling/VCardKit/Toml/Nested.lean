/-
  Reading a value of any kind from the front of a text. Arrays may go over several lines and hold
  comments; tables within a line may not. What such a table holds is complete: a later key of the
  table adds nothing to it. Each value asks whether there is room for it inside the arrays and
  tables that are open (`Room`), since that is where the depth of a text meets the stack.
-/
import VCardKit.Toml.Timestamp

namespace VCardKit.Toml

open VCardKit.Text

/-- The text behind blanks, line breaks and comments; `comment` holds inside a comment. -/
def skipFiller (comment : Bool) : List Char → Except Refusal (List Char)
  | [] => .ok []
  | c :: rest =>
    if c = '\n' then skipFiller false rest
    else if comment then if isControl c then .error .malformed else skipFiller true rest
    else if c = '#' then skipFiller true rest
    else if isSpace c then skipFiller false rest
    else .ok (c :: rest)

/-- Paths to which nothing may be added, nor to any path behind them. -/
abbrev Frozen := List (List String)

namespace Frozen

/-- Whether a path is frozen, or lies behind one that is. -/
def covers (f : Frozen) (path : List String) : Bool := f.any (·.isPrefixOf path)

/-- The paths with that of another value, which is frozen if it holds other values. -/
def add (f : Frozen) (path : List String) (v : Value) : Frozen :=
  if v.isContainer then path :: f else f

end Frozen

section

variable (room : Room (List Char))

mutual

/-- A value inside the open containers. The fuel bounds the steps; the length of the text is
enough. -/
def value : Nat → List Container → List Char → Except Refusal (Found Value)
  | 0, _, _ => .error .malformed
  | fuel + 1, opened, cs =>
    if !room opened cs then .error .tooDeep
    else
      match cs with
      | '"' :: _ | '\'' :: _ =>
        match string? cs with
        | some (s, rest) => .ok (.text s, rest)
        | none => .error .malformed
      | 't' :: 'r' :: 'u' :: 'e' :: rest => .ok (.boolean true, rest)
      | 'f' :: 'a' :: 'l' :: 's' :: 'e' :: rest => .ok (.boolean false, rest)
      | '[' :: rest => do
        let (items, rest) ← items fuel (.array :: opened) rest
        return (.array items, rest)
      | '\x7b' :: rest => do
        let (rows, rest) ← table fuel (.table :: opened) (skipSpaces rest)
        return (.table rows, rest)
      | cs =>
        match moment? cs with
        | some (m, rest) => if m.isValid then .ok (.moment m, rest) else .error .malformed
        | none => number cs

/-- The items of an array that stand before its closing bracket. -/
def items : Nat → List Container → List Char → Except Refusal (Found (List Value))
  | 0, _, _ => .error .malformed
  | fuel + 1, opened, cs => do
    match ← skipFiller false cs with
    | ']' :: rest => return ([], rest)
    | cs =>
      let (v, rest) ← value fuel opened cs
      match ← skipFiller false rest with
      | ']' :: rest => return ([v], rest)
      | ',' :: rest =>
        let (vs, rest) ← items fuel opened rest
        return (v :: vs, rest)
      | _ => throw .malformed

/-- The rows of a table whose opening brace was read. -/
def table : Nat → List Container → List Char → Except Refusal (Found Rows)
  | 0, _, _ => .error .malformed
  | fuel + 1, opened, cs =>
    match cs with
    | '\x7d' :: rest => .ok ([], rest)
    | cs => pairs fuel opened [] [] cs

/-- The given rows and those that stand before the closing brace. -/
def pairs :
    Nat → List Container → Frozen → Rows → List Char → Except Refusal (Found Rows)
  | 0, _, _, _, _ => .error .malformed
  | fuel + 1, opened, frozen, rows, cs =>
    match key? cs.length cs with
    | some (key, '=' :: rest) => do
      let (v, rest) ← value fuel opened (skipSpaces rest)
      match if frozen.covers key then none else rows.put? key v with
      | none => throw .malformed
      | some rows =>
        match skipSpaces rest with
        | '\x7d' :: rest => return (rows, rest)
        | ',' :: rest => pairs fuel opened (frozen.add key v) rows (skipSpaces rest)
        | _ => throw .malformed
    | _ => .error .malformed

end

end

end VCardKit.Toml
