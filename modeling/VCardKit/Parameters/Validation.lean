/-
  The rules of the versions on parameters. Names and values are checked one by one, in order; no
  finding hides another.
-/
import VCardKit.Parameters.WellKnown
import VCardKit.Warning

namespace VCardKit.Parameters

/-! ## Names -/

/-- Characters that a name may not hold in version 2.1, printable as they are. -/
def reservedChars : List Char := ['[', ']', '=', ':', '.', ',', ';']

/-- The characters of a name in a version. -/
def isNameChar (version : Version) (c : Char) : Bool :=
  match version with
  | .v2_1 => 0x21 ≤ c.toNat && c.toNat ≤ 0x7E && !reservedChars.contains c
  | _ => c.isAlphanum || c = '-'

/-- Whether a name has characters of the version only, one line feed at its end left aside. -/
def isName (version : Version) (name : String) : Bool :=
  let cs := name.toList
  let cs := if cs.getLast? = some '\n' then cs.dropLast else cs
  !cs.isEmpty && cs.all (isNameChar version)

/-- The versions that define a parameter; a name that is not listed is allowed in all. -/
def definedIn : List (String × List Version) :=
  [("ALTID", [.v4_0]), ("CALSCALE", [.v4_0]), ("CHARSET", [.v2_1]), ("ENCODING", [.v2_1, .v3_0]),
   ("GEO", [.v4_0]), ("INDEX", [.v4_0]), ("LABEL", [.v4_0]), ("LEVEL", [.v4_0]),
   ("MEDIATYPE", [.v4_0]), ("PID", [.v4_0]), ("PREF", [.v4_0]), ("SORT-AS", [.v4_0]),
   ("TZ", [.v4_0])]

/-- The warnings about a name. -/
def nameWarnings (version : Version) (name : String) : List Warning :=
  let characters :=
    if isName version name then []
    else [Warning.parameter ("Parameter name " ++ name ++
      " contains characters not allowed in version " ++ version.text ++ ".")]
  let support :=
    match definedIn.lookup name with
    | none => []
    | some versions =>
      if versions.contains version then []
      else [Warning.parameter ("Parameter " ++ name ++ " is not supported by version " ++
        version.text ++ ".  Supported versions are: " ++ Version.listText versions.contains)]
  characters ++ support

/-! ## Values -/

/-- The encodings that a version knows, in alphabetic order; none where any is allowed. -/
def encodings : Version → List String
  | .v2_1 => ["7BIT", "8BIT", "BASE64", "QUOTED-PRINTABLE"]
  | .v3_0 => ["B"]
  | .v4_0 => []

def isExtension (value : String) : Bool := (Text.lower value).toList.take 2 = ['x', '-']

def encodingProblem? (version : Version) (value : String) : Option String :=
  if (encodings version).isEmpty || (encodings version).contains (Text.upper value) then none
  else some ("ENCODING value \"" ++ value ++ "\" is not supported by version " ++ version.text ++
    ".  Supported values are: " ++ Text.quotedList (encodings version))

def dataTypeProblem? (version : Version) (value : String) : Option String :=
  match DataType.ofName? value with
  | none =>
    if isExtension value then none
    else some ("VALUE \"" ++ value ++ "\" is not a recognized data type.")
  | some t =>
    if t.isSupported version then none
    else some ("VALUE \"" ++ value ++ "\" is not supported by version " ++ version.text ++ ".")

def prefProblem? (value : String) : Option String :=
  if (Decimal.integer? value).any isPref then none
  else some ("PREF must be an integer between 1 and 100, got \"" ++ value ++ "\".")

def indexProblem? (value : String) : Option String :=
  if (Decimal.integer? value).any isIndex then none
  else some ("INDEX must be an integer greater than zero, got \"" ++ value ++ "\".")

def pidProblem? (value : String) : Option String :=
  if (pidDigits? value).isSome then none
  else some ("PID value \"" ++ value ++
    "\" is not in the form <local-id> or <local-id>.<clientpidmap-ref>.")

def calendarProblem? (value : String) : Option String :=
  if Text.lower value = "gregorian" || isExtension value then none
  else some ("CALSCALE value \"" ++ value ++ "\" is not recognized.")

/-- What is wrong with a value under the rules of its name. -/
def valueProblem? (version : Version) (name value : String) : Option String :=
  match name with
  | "ENCODING" => encodingProblem? version value
  | "VALUE" => dataTypeProblem? version value
  | "PREF" => prefProblem? value
  | "INDEX" => indexProblem? value
  | "PID" => pidProblem? value
  | "CALSCALE" => calendarProblem? value
  | _ => none

/-- The warnings about one value. -/
def valueWarnings (version : Version) (name value : String) : List Warning :=
  let control :=
    if value.toList.any Text.isControl then
      [Warning.parameter ("Parameter " ++ name ++ " has a value that contains control characters.")]
    else []
  control ++ (valueProblem? version name value).toList.map Warning.parameter

/-! ## Containers -/

/-- The warnings about a name and its values. -/
def entryWarnings (version : Version) (entry : String × List String) : List Warning :=
  nameWarnings version entry.1 ++ entry.2.flatMap (valueWarnings version entry.1)

/-- The warnings about parameters in a card of a version, in the order of the names. -/
def validate (p : Parameters) (version : Version) : List Warning :=
  p.entries.flatMap (entryWarnings version)

end VCardKit.Parameters
