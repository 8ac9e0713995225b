/-
  Property types that make the hooks visible. One keeps its text as it stands and records the calls
  it gets; variants of it change the parameters that are written, report findings, or bear an XML
  name of their own. The other fails with a failure that it is given.
-/
import VCardKit.Property.Basic

namespace VCardKit

/-! ## Recording -/

/-- A call of a text hook. -/
inductive Call where
  | writeText (version : Version) (mode : Mode)
  | readText (value : String) (version : Version) (mode : Mode)
  deriving DecidableEq, Repr

/-- What a recording property does beside recording. -/
inductive EchoVariant where
  | plain
  | adjusting
  | validating
  | namespaced
  | namespacedTwin
  deriving DecidableEq, Repr

/-- A text kept as it stands, and the calls so far. -/
structure Echo where
  variant : EchoVariant
  value : Option String := none
  calls : List Call := []
  deriving DecidableEq, Repr

namespace Echo

def record (e : Echo) (call : Call) : Echo := { e with calls := e.calls ++ [call] }

def writeText (p : Property Echo) (version : Version) (mode : Mode) : Attempt Failure Echo String :=
  .done (p.content.value.getD "") (p.content.record (.writeText version mode))

def readText (p : Property Echo) (value : String) (version : Version) (mode : Mode) :
    Attempt Failure Echo (List String) :=
  .done (if value = "" then ["Value is blank."] else [])
    { p.content.record (.readText value version mode) with value := some value }

/-- The circumstances of a writing, as a parameter value. -/
def context (version : Version) (mode : Mode) (card : Option Card) : String :=
  version.text ++ "/" ++ mode.text ++ "/" ++
    match card with
    | none => "-"
    | some c => toString c.size

def adjust (p : Property Echo) (_ : Parameters) (version : Version) (mode : Mode)
    (card : Option Card) : List Parameters.Edit :=
  match p.content.variant with
  | .adjusting =>
    [.replace "LANGUAGE" (some "fr"), .put "TYPE" "work", .removeAll "PREF",
      .put "X-CONTEXT" (context version mode card)]
  | _ => []

def findings (p : Property Echo) (version : Version) (card : Option Card) : List Warning :=
  match p.content.variant with
  | .validating =>
    [{ text := "first problem" }, .empty "second problem"] ++
      card.toList.map fun c =>
        { text := version.text ++ " in a card of " ++ toString c.size }
  | _ => []

def isSupported (e : Echo) (version : Version) : Bool :=
  match e.variant with
  | .validating => version != .v3_0
  | _ => true

def qualifiedName? (e : Echo) : Option QualifiedName :=
  match e.variant with
  | .namespaced | .namespacedTwin => some ("http://example.com/ns", "thing")
  | _ => none

instance : Content Echo where
  writeText := writeText
  readText := readText
  adjust := adjust
  findings := findings
  isSupported := isSupported
  qualifiedName? := qualifiedName?

end Echo

/-! ## Failing -/

/-- The failure that a property fails with, if any. -/
structure Failing where
  /-- Whether it fails by its type, and not because a failure was given to it. -/
  skipping : Bool := false
  failure : Option Failure := none
  deriving DecidableEq, Repr

namespace Failing

def writeText (p : Property Failing) (_ : Version) (_ : Mode) : Attempt Failure Failing String :=
  match p.content.failure with
  | some failure => .failed failure p.content
  | none => .done "ok" p.content

def readText (p : Property Failing) (_ : String) (_ : Version) (_ : Mode) :
    Attempt Failure Failing (List String) :=
  match p.content.failure with
  | some failure => .failed failure p.content
  | none => .done ["lost warning"] p.content

instance : Content Failing where
  writeText := writeText
  readText := readText

end Failing

end VCardKit
