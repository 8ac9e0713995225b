/-
  Where the defaults come from. A file may set them, and the environment overrides the file. A
  variable that is empty counts as absent, and so does the variable that names the file. A file
  that cannot be used is an error, whatever the environment says. The files themselves and the room
  on the stack belong to the system on which a configuration is loaded (`Host`).
-/
import VCardKit.Files.Tree
import VCardKit.Mode
import VCardKit.Toml.Document

namespace VCardKit

/-- The variables of the environment that matter. -/
structure Environment where
  version : Option String := none
  mode : Option String := none
  /-- The path of the file. -/
  file : Option String := none
  deriving DecidableEq, Repr

/-- What the loading needs of the system: what stands at each path, and what room the stack has for
values inside others when a document is read and when a value is written. -/
structure Host where
  read : Files.Path → Files.Reading
  readingRoom : Toml.Room (List Char)
  writingRoom : Toml.Room Toml.Value

namespace Host

/-- The frames that are left to what reads or writes nested values, out of a thousand. -/
def frameLimit : Nat := 980

/-- The frames that the reading of an array or of a table takes. -/
def readingFrames : Toml.Container → Nat
  | .array => 2
  | .table => 3

/-- The system that has a tree of files. Writing takes one frame for each array or table. -/
def ofTree (tree : Files.Tree) : Host where
  read := tree.read
  readingRoom := .ofFrames frameLimit readingFrames
  writingRoom := .ofFrames frameLimit fun _ => 1

end Host

/-- Why a configuration is refused. -/
inductive ConfigError where
  | unknownVersion (text : String)
  | unknownMode (text : String)
  | unreadable (path : Files.Path) (cause : Files.ReadError)
  | malformed (path : Files.Path)
  deriving DecidableEq, Repr

/-- The text of an error about a file, before the cause. -/
def ConfigError.aboutFile (path : Files.Path) : String :=
  "Could not read config file " ++ path.text ++ ": "

def ConfigError.message : ConfigError → String
  | unknownVersion text => "Unknown vCard version: " ++ text
  | unknownMode text => "Unknown compatibility mode: " ++ text
  | unreadable path cause => aboutFile path ++ cause.message path
  | malformed path => aboutFile path

/-- What ends the loading of a file: the configuration is refused, or the file or its path fail in a
way that is not reported as a fault of the configuration. -/
inductive LoadError where
  | config (error : ConfigError)
  /-- The file is not UTF-8. -/
  | undecodable
  /-- An integer in the file has too many digits to be read. -/
  | tooManyDigits (count : Nat)
  /-- A value of the file stands in too many arrays and tables to be read. -/
  | tooDeep
  /-- A setting of the file cannot be turned into text. -/
  | unwritable (cause : Toml.Unwritable)
  /-- The path holds the character NUL. -/
  | nullInPath
  deriving DecidableEq, Repr

/-- The text of an error, if it has one of its own. -/
def LoadError.message? : LoadError → Option String
  | config error => some error.message
  | undecodable | tooDeep | unwritable .nesting => none
  | tooManyDigits count => some (Decimal.limitMessage count)
  | unwritable .integer => some Decimal.writingLimitMessage
  | nullInPath => some "embedded null byte"

namespace Config

/-! ## Settings -/

/-- The defaults with a version, if one is set. -/
def withVersion (c : Config) (setting : Option String) : Except ConfigError Config :=
  match setting with
  | none => .ok c
  | some text =>
    match Version.ofText? text with
    | some version => .ok { c with defaultVersion := version }
    | none => .error (.unknownVersion text)

/-- The defaults with a compatibility mode, if one is set. -/
def withMode (c : Config) (setting : Option String) : Except ConfigError Config :=
  match setting with
  | none => .ok c
  | some text =>
    match Mode.ofText? text with
    | some mode => .ok { c with mode }
    | none => .error (.unknownMode text)

/-- The defaults with both settings; the version is looked at first. -/
def withSettings (c : Config) (version mode : Option String) : Except ConfigError Config := do
  (← c.withVersion version).withMode mode

/-- A variable, unless it is empty. -/
def nonEmpty (setting : Option String) : Option String := setting.filter (· != "")

/-- The defaults with the settings of the environment. -/
def withEnvironment (c : Config) (env : Environment) : Except ConfigError Config :=
  c.withSettings (nonEmpty env.version) (nonEmpty env.mode)

/-! ## Sources -/

/-- The defaults that the environment sets. -/
def ofEnvironment (env : Environment) : Except ConfigError Config :=
  ({} : Config).withEnvironment env

section

variable (host : Host) (env : Environment)

/-- The keys and values of a text in a file. -/
def rowsOf (path : Files.Path) (text : String) : Except LoadError Toml.Rows :=
  (Toml.read host.readingRoom text).mapError fun
    | .malformed => .config (.malformed path)
    | .tooManyDigits count => .tooManyDigits count
    | .tooDeep => .tooDeep

/-- The keys and values of a file. -/
def readRows (path : Files.Path) : Except LoadError Toml.Rows :=
  if path.text.toList.contains '\x00' then .error .nullInPath
  else
    match host.read path with
    | .error cause => .error (.config (.unreadable path cause))
    | .ok bytes =>
      match String.fromUTF8? bytes with
      | none => .error .undecodable
      | some text => rowsOf host path text

/-- A value of a file as text, if the key is there. -/
def setting? (rows : Toml.Rows) (key : String) : Except LoadError (Option String) :=
  match rows.lookup key with
  | none => .ok none
  | some value => ((value.toText host.writingRoom).mapError .unwritable).map some

/-- The defaults that the keys of a file set, with the settings of the environment. -/
def ofRows (rows : Toml.Rows) : Except LoadError Config := do
  let c ← (({} : Config).withVersion (← setting? host rows "default_version")).mapError .config
  let c ← (c.withMode (← setting? host rows "compatibility_mode")).mapError .config
  (c.withEnvironment env).mapError .config

/-- The defaults that a file sets, with the settings of the environment. -/
def ofFile (path : Files.Path) : Except LoadError Config := do
  ofRows host env (← readRows host path)

/-- The file to read: the given one, or else the one that the environment names. -/
def source? (path : Option Files.Path) : Option Files.Path :=
  path.orElse fun _ => (nonEmpty env.file).map Files.Path.ofString

/-- The defaults from the file to read, or from the environment alone if there is none. -/
def load (path : Option Files.Path) : Except LoadError Config :=
  match source? env path with
  | some path => ofFile host env path
  | none => (ofEnvironment env).mapError .config

end

end Config

end VCardKit
