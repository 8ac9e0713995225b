/-
  The values of a TOML document, and why a document is refused. Tables keep the order in which
  their keys were written. Reading and writing descend into values that hold others, and the stack
  may have no room for that: what room there is, is a parameter of both (`Room`).
-/
import VCardKit.Decimal.Integer
import VCardKit.Decimal.Layout
import VCardKit.Text.Quoted
import VCardKit.Toml.Moment

namespace VCardKit.Toml

/-- A value. -/
inductive Value where
  | text (value : String)
  | integer (value : Int)
  | float (value : Float)
  | boolean (value : Bool)
  | moment (value : Moment)
  | array (items : List Value)
  | table (rows : List (String × Value))
  deriving Inhabited

/-- The values that hold other values. -/
inductive Container where
  | array
  | table
  deriving DecidableEq, Repr

/-- The room on the stack: whether there is some to go on with a thing inside the containers that
are open, the innermost of which stands first. -/
abbrev Room (α : Type) := List Container → α → Bool

/-- The room of a number of frames. Each open container takes some of them. -/
def Room.ofFrames {α : Type} (frames : Nat) (taken : Container → Nat) : Room α :=
  fun opened _ => opened.foldr (fun kind used => taken kind + used) 0 ≤ frames

/-- Keys with their values. -/
abbrev Rows := List (String × Value)

/-- Why a document is refused. -/
inductive Refusal where
  | malformed
  /-- A decimal integer with too many digits. -/
  | tooManyDigits (count : Nat)
  /-- A value inside more containers than there is room for. -/
  | tooDeep
  deriving DecidableEq, Repr

/-- Why a value has no text. -/
inductive Unwritable where
  /-- It holds an integer with too many digits. -/
  | integer
  /-- It nests deeper than there is room for. -/
  | nesting
  deriving DecidableEq, Repr

namespace Value

mutual

/-- A value inside an array or a table. -/
def display : Value → String
  | text value => Text.quoted value
  | integer value => toString value
  | float value => Decimal.floatText value
  | boolean value => if value then "True" else "False"
  | moment value => value.display
  | array items => Text.bracketed (displayAll items)
  | table rows => "\x7b" ++ ", ".intercalate (displayRows rows) ++ "\x7d"

def displayAll : List Value → List String
  | [] => []
  | v :: rest => v.display :: displayAll rest

def displayRows : List (String × Value) → List String
  | [] => []
  | (key, v) :: rest => (Text.quoted key ++ ": " ++ v.display) :: displayRows rest

end

/-- A value as one text: a text stands for itself. -/
def asText : Value → String
  | text value => value
  | moment value => value.text
  | v => v.display

section

variable (room : Room Value)

mutual

/-- The first thing that keeps a value inside the open containers from being written. -/
def fault? (opened : List Container) (v : Value) : Option Unwritable :=
  if !room opened v then some .nesting
  else
    match v with
    | integer value => if Decimal.isWritable value then none else some .integer
    | array items => faultIn? (.array :: opened) items
    | table rows => faultInRows? (.table :: opened) rows
    | _ => none

def faultIn? (opened : List Container) : List Value → Option Unwritable
  | [] => none
  | v :: rest => (fault? opened v).or (faultIn? opened rest)

def faultInRows? (opened : List Container) :
    List (String × Value) → Option Unwritable
  | [] => none
  | (_, v) :: rest => (fault? opened v).or (faultInRows? opened rest)

end

/-- A value as one text, if nothing keeps it from being written. -/
def toText (v : Value) : Except Unwritable String :=
  match v with
  | text _ | moment _ => .ok v.asText
  | v =>
    match fault? room [] v with
    | none => .ok v.asText
    | some fault => .error fault

end

/-- A value that holds other values. -/
def isContainer : Value → Bool
  | array _ | table _ => true
  | _ => false

end Value

/-! ## Tables -/

namespace Rows

/-- The rows with another value under a key that is there. -/
def replace (key : String) (value : Value) (rows : Rows) : Rows :=
  rows.map fun row => if row.1 = key then (key, value) else row

/-- Changes the rows of the table at a path. Tables that are missing on the way are made; where an
array stands on the way, its last item is meant. Nothing but tables may stand on the way. -/
def modifyAt? (path : List String) (f : Rows → Option Rows) (rows : Rows) : Option Rows :=
  match path with
  | [] => f rows
  | key :: path =>
    match rows.lookup key with
    | none => (modifyAt? path f []).map fun inner => rows ++ [(key, .table inner)]
    | some (.table inner) => (modifyAt? path f inner).map fun inner =>
        replace key (.table inner) rows
    | some (.array items) =>
      match items.getLast? with
      | some (.table inner) => (modifyAt? path f inner).map fun inner =>
          replace key (.array (items.dropLast ++ [.table inner])) rows
      | _ => none
    | some _ => none

/-- Puts a value under a key that is not taken. -/
def add? (key : String) (value : Value) (rows : Rows) : Option Rows :=
  if (rows.lookup key).isSome then none else some (rows ++ [(key, value)])

/-- Puts a value at the end of a path. -/
def put? (path : List String) (value : Value) (rows : Rows) : Option Rows :=
  modifyAt? path.dropLast (add? (path.getLastD "") value) rows

/-- Puts an empty table at the end of the array under a key. -/
def extend? (key : String) (rows : Rows) : Option Rows :=
  match rows.lookup key with
  | none => some (rows ++ [(key, .array [.table []])])
  | some (.array items) => some (replace key (.array (items ++ [.table []])) rows)
  | some _ => none

end Rows

end VCardKit.Toml
