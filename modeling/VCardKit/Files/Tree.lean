/-
  Reading files. Parts of a path that are empty or a single point say nothing and are dropped; a
  path of no parts is the current directory. What a path gives is up to the system, and any reading
  of paths will do for what is built on it. A tree of files is one: it has a root, and relative
  paths start from a current directory. Links and rights are no part of it.
-/
import VCardKit.Text.Blank
import VCardKit.Text.Quoted

namespace VCardKit.Files

/-! ## Paths -/

/-- A path: the slashes at its front, and its parts. -/
structure Path where
  root : String
  parts : List String
  deriving DecidableEq, Repr

namespace Path

/-- Exactly two slashes at the front are kept as they are; any other number counts as one. -/
def rootOf (cs : List Char) : String :=
  match (cs.takeWhile (· = '/')).length with
  | 0 => ""
  | 2 => "//"
  | _ => "/"

def saysNothing (part : String) : Bool := part = "" || part = "."

def ofString (s : String) : Path :=
  ⟨rootOf s.toList,
    ((Text.pieces (· = '/') s.toList).map .ofList).filter fun part => !saysNothing part⟩

def text (p : Path) : String :=
  if p.root = "" && p.parts.isEmpty then "." else p.root ++ "/".intercalate p.parts

end Path

/-! ## Readings -/

/-- Why a path cannot be read: the number and the text of the system's error. -/
structure ReadError where
  code : Nat
  text : String
  deriving DecidableEq, Repr

namespace ReadError

def missing : ReadError := ⟨2, "No such file or directory"⟩

/-- A file stands where the path needs a directory. -/
def notDirectory : ReadError := ⟨20, "Not a directory"⟩

def isDirectory : ReadError := ⟨21, "Is a directory"⟩

/-- A name on the way, or the whole path, has too many bytes. -/
def tooLong : ReadError := ⟨36, "File name too long"⟩

/-- The text of the refusal to read a path. -/
def message (e : ReadError) (path : Path) : String :=
  "[Errno " ++ toString e.code ++ "] " ++ e.text ++ ": " ++ Text.quoted path.text

end ReadError

/-- A file is there, or says why it cannot be read. -/
abbrev Reading := Except ReadError ByteArray

/-- The most bytes that a name may have. -/
def nameLimit : Nat := 255

/-- The most bytes that the text of a path may have. -/
def pathLimit : Nat := 4095

/-! ## Trees -/

/-- Files by the names on the way from the root, and the directory where relative paths start. -/
structure Tree where
  files : List (List String × ByteArray) := []
  current : List String := []

namespace Tree

/-- Whether a directory holds a file, or the current directory, at any depth. -/
def holdsBelow (t : Tree) (place : List String) : Bool :=
  place.isPrefixOf t.current || t.files.any fun file => place.isPrefixOf file.1

/-- Follows the names of a path from a directory. A name is measured before it is looked up, and the
root is above itself. -/
def follow (t : Tree) (place : List String) : List String → Reading
  | [] => .error .isDirectory
  | part :: rest =>
    if part = ".." then follow t place.dropLast rest
    else if nameLimit < part.utf8ByteSize then .error .tooLong
    else
      let there := place ++ [part]
      match t.files.lookup there with
      | some bytes => if rest.isEmpty then .ok bytes else .error .notDirectory
      | none => if t.holdsBelow there then follow t there rest else .error .missing

/-- The directory from which a path is followed. -/
def start (t : Tree) (path : Path) : List String := if path.root = "" then t.current else []

/-- The bytes of a file. -/
def read (t : Tree) (path : Path) : Reading :=
  if pathLimit < path.text.utf8ByteSize then .error .tooLong
  else t.follow (t.start path) path.parts

end Tree

end VCardKit.Files
