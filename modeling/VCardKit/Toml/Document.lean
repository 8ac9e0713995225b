/-
  TOML documents: assignments of values to keys, in sections that headers open. A header opens a
  table, or another table of an array. A key is assigned once, and a table is opened once; an array
  or a table that was assigned as a whole is complete. Of the stack, only the room for values inside
  arrays and tables is part of the model (`Room`); what reads keys, headers and lines does not
  descend. A text holds no lone surrogates.
-/
import VCardKit.Toml.Nested

namespace VCardKit.Toml

open VCardKit.Text

/-- A document as far as it was read. -/
structure Draft where
  rows : Rows := []
  /-- The table that the last header opened. -/
  current : List String := []
  /-- Tables that may not be opened again. -/
  closed : List (List String) := []
  /-- Tables that keys of several parts opened in this section; they are closed at its end. -/
  pending : List (List String) := []
  /-- The arrays and tables that were assigned as a whole. -/
  frozen : Frozen := []

namespace Draft

/-- The document with the change that an operation on its rows makes. -/
def withRows (d : Draft) (rows : Option Rows) : Except Refusal Draft :=
  match rows with
  | some rows => .ok { d with rows }
  | none => .error .malformed

/-- The document at the end of a section. -/
def endSection (d : Draft) : Draft := { d with closed := d.pending ++ d.closed, pending := [] }

/-- The document with the header of a table. -/
def openTable (d : Draft) (path : List String) : Except Refusal Draft :=
  let d := d.endSection
  if d.closed.contains path || d.frozen.covers path then .error .malformed
  else
    ({ d with current := path, closed := path :: d.closed } : Draft).withRows
      (Rows.modifyAt? path some d.rows)

/-- The document with the header of another table of an array. What lies in it may be opened
anew. -/
def openItem (d : Draft) (path : List String) : Except Refusal Draft :=
  let d := d.endSection
  if d.frozen.covers path then .error .malformed
  else
    let others (paths : List (List String)) := paths.filter fun p => !path.isPrefixOf p
    let closed := path :: others d.closed
    ({ d with current := path, closed, frozen := others d.frozen } : Draft).withRows
      (Rows.modifyAt? path.dropLast (Rows.extend? (path.getLastD "")) d.rows)

/-- The tables that a key of several parts passes through. -/
def passed (d : Draft) (key : List String) : List (List String) :=
  (List.range' 1 (key.length - 1)).map fun n => d.current ++ key.take n

/-- The document with an assignment. -/
def assign (d : Draft) (key : List String) (v : Value) : Except Refusal Draft :=
  let path := d.current ++ key
  if (d.passed key).any d.closed.contains || d.frozen.covers path.dropLast then .error .malformed
  else
    let pending := d.passed key ++ d.pending
    ({ d with pending, frozen := d.frozen.add path v } : Draft).withRows (d.rows.put? path v)

end Draft

section

variable (room : Room (List Char))

/-- The document with the assignment at the front of a text, and the rest of the text. -/
def assignment (d : Draft) (cs : List Char) : Except Refusal (Found Draft) :=
  match key? cs.length cs with
  | some (key, '=' :: rest) => do
    let (v, rest) ← value room rest.length [] (skipSpaces rest)
    return (← d.assign key v, rest)
  | _ => .error .malformed

/-- The document with the header whose opening bracket was read, and the rest of the text. -/
def header (d : Draft) (cs : List Char) : Except Refusal (Found Draft) :=
  let cs := skipSpaces cs
  match key? cs.length cs with
  | some (key, ']' :: rest) => do return (← d.openTable key, rest)
  | _ => .error .malformed

/-- The document with the header whose two opening brackets were read, and the rest of the text. -/
def itemHeader (d : Draft) (cs : List Char) : Except Refusal (Found Draft) :=
  let cs := skipSpaces cs
  match key? cs.length cs with
  | some (key, ']' :: ']' :: rest) => do return (← d.openItem key, rest)
  | _ => .error .malformed

/-- What stands on a line before its end or a comment. -/
def statement (d : Draft) (cs : List Char) : Except Refusal (Found Draft) :=
  match skipSpaces cs with
  | [] => .ok (d, [])
  | '[' :: '[' :: rest => itemHeader d rest
  | '[' :: rest => header d rest
  | c :: rest =>
    if c = '\n' || c = '#' then .ok (d, c :: rest) else assignment room d (c :: rest)

/-- The text behind a comment. -/
def skipComment : List Char → Except Refusal (List Char)
  | '#' :: rest =>
    if (rest.takeWhile (· != '\n')).any isControl then .error .malformed
    else .ok (rest.dropWhile (· != '\n'))
  | cs => .ok cs

/-- Reads statements to the end of a text, of which there are at most `fuel`. -/
def statements : Nat → Draft → List Char → Except Refusal Draft
  | 0, _, _ => .error .malformed
  | fuel + 1, d, cs => do
    let (d, rest) ← statement room d cs
    match ← skipComment (skipSpaces rest) with
    | [] => return d
    | '\n' :: rest => statements fuel d rest
    | _ => throw .malformed

/-- Every line break of two characters as one line feed. -/
def joinBreaks : List Char → List Char
  | [] => []
  | '\r' :: '\n' :: rest => '\n' :: joinBreaks rest
  | c :: rest => c :: joinBreaks rest

/-- The keys and values of a document. -/
def read (text : String) : Except Refusal Rows :=
  let cs := joinBreaks text.toList
  (statements room (cs.length + 1) {} cs).map (·.rows)

end

end VCardKit.Toml
