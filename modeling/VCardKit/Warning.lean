/-
  Warnings: findings of a validation, each of one of four kinds.
-/
import VCardKit.Text.Quoted

namespace VCardKit

/-- What a validation warning is about. -/
inductive WarningKind where
  /-- The version does not define the property. -/
  | unsupportedVersion
  /-- A parameter breaks a rule of the version. -/
  | parameterInvalid
  /-- The property holds no value. -/
  | valueEmpty
  /-- A rule of one property type. -/
  | typeSpecific
  deriving DecidableEq, Repr

namespace WarningKind

/-- The name of a kind, in lower case with hyphens. -/
def text : WarningKind → String
  | unsupportedVersion => "unsupported-version"
  | parameterInvalid => "parameter-invalid"
  | valueEmpty => "value-empty"
  | typeSpecific => "type-specific"

/-- The name of a kind, in capitals. -/
def label : WarningKind → String
  | unsupportedVersion => "UNSUPPORTED_VERSION"
  | parameterInvalid => "PARAMETER_INVALID"
  | valueEmpty => "VALUE_EMPTY"
  | typeSpecific => "TYPE_SPECIFIC"

def all : List WarningKind := [.unsupportedVersion, .parameterInvalid, .valueEmpty, .typeSpecific]

end WarningKind

/-- A validation warning. -/
structure Warning where
  text : String
  kind : WarningKind := .typeSpecific
  deriving DecidableEq, Repr

namespace Warning

/-- A warning about a parameter. -/
def parameter (text : String) : Warning := ⟨text, .parameterInvalid⟩

/-- A warning about a missing value. -/
def empty (text : String) : Warning := ⟨text, .valueEmpty⟩

/-- The warning as a log shows it. -/
def describe (w : Warning) : String :=
  "ValidationWarning(" ++ Text.quoted w.text ++ ", " ++ w.kind.label ++ ")"

end Warning

end VCardKit
