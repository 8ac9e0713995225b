/-
  New properties from arguments. A kind takes the arguments that its content has a place for, and
  the name where the kind does not fix it; then the name is needed.
-/
import VCardKit.Property.Part

namespace VCardKit

/-- An argument of a new property. -/
inductive Argument where
  | typeName (name : String)
  | text (part : TextPart) (value : Option String)
  | values (values : List String)
  | card (id : Option CardId)
  | failure (failure : Option Failure)

namespace AnyContent

/-- The content with an argument in its place, if there is a place for it. -/
def give? (content : AnyContent) : Argument → Option AnyContent
  | .typeName _ => none
  | .text part value =>
    if (content.text? part).isSome then some (content.setText part value) else none
  | .values values => if content.values?.isSome then some (content.setValues values) else none
  | .card id =>
    match content with
    | agent a => some (agent { a with card := id })
    | _ => none
  | .failure failure =>
    match content with
    | failing f => if f.skipping then none else some (failing { f with failure })
    | _ => none

end AnyContent

namespace AnyProperty

/-- The name among the arguments. -/
def nameAmong? (args : List Argument) : Option String :=
  args.findSome? fun
    | .typeName name => some name
    | _ => none

def isName : Argument → Bool
  | .typeName _ => true
  | _ => false

/-- A new property of a kind, before its arguments other than the name are given. -/
def blank? (kind : Kind) (name : Option String) : Option AnyProperty :=
  match kind.typeName?, name with
  | some _, none => ofKind? kind
  | none, some name =>
    if kind = .raw then some (raw name)
    else (AnyContent.ofKind? kind).map fun content => { typeName := name, content }
  | _, _ => none

/-- A new property of a kind, unless an argument is missing or has no place. -/
def construct? (kind : Kind) (args : List Argument) : Option AnyProperty := do
  let p ← blank? kind (nameAmong? args)
  let content ← (args.filter fun a => !isName a).foldlM AnyContent.give? p.content
  return { p with content }

/-- A new property of a kind with a gender, given the sex. -/
def ofSex? (kind : Kind) (sex : Gender.Sex) : Option AnyProperty :=
  construct? kind [.text .sex (some sex.letter)]

end AnyProperty

end VCardKit
