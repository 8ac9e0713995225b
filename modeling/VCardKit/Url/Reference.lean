/-
  URL references and their resolution against a base. Control characters and spaces in front of a
  reference are dropped, and so are tabs and line breaks anywhere. Dot segments are removed; empty
  segments inside a merged path are dropped; an empty query or fragment is not written. A reference
  with a scheme of its own, or with one that knows no relative references, stands as it is.
-/
import VCardKit.Text.Case
import VCardKit.Url.Host

namespace VCardKit.Url

open VCardKit.Text

/-! ## Schemes -/

/-- Schemes under which relative references are resolved. The empty text stands for none. -/
def relativeSchemes : List String :=
  ["", "ftp", "http", "gopher", "nntp", "imap", "wais", "file", "https", "shttp", "mms",
   "prospero", "rtsp", "rtspu", "sftp", "svn", "svn+ssh", "ws", "wss"]

/-- Schemes whose references have an authority. -/
def authoritySchemes : List String :=
  ["", "ftp", "http", "gopher", "nntp", "telnet", "imap", "wais", "file", "mms", "https", "shttp",
   "snews", "prospero", "rtsp", "rtspu", "rsync", "svn", "svn+ssh", "sftp", "nfs", "git",
   "git+ssh", "ws", "wss"]

/-- Schemes whose paths end in parameters behind a semicolon. -/
def parameterSchemes : List String :=
  ["", "ftp", "hdl", "prospero", "http", "imap", "https", "shttp", "rtsp", "rtspu", "sip",
   "sips", "mms", "sftp", "tel"]

def isSchemeChar (c : Char) : Bool := c.isAlphanum || c = '+' || c = '-' || c = '.'

/-! ## Reading and writing -/

/-- A reference in parts. -/
structure Reference where
  scheme : String
  authority : List Char
  path : List Char
  params : List Char
  query : List Char
  fragment : List Char
  deriving DecidableEq, Repr

/-- A reference without leading controls and spaces and without tabs and line breaks. -/
def sanitize (cs : List Char) : List Char :=
  (cs.dropWhile fun c => c.toNat ≤ 0x20).filter fun c => !(c = '\t' || c = '\r' || c = '\n')

/-- The scheme in front of a reference, in lower case, and the rest. -/
def splitScheme (default : String) (cs : List Char) : String × List Char :=
  let (front, rest) := cutAt (· = ':') cs
  if cs.contains ':' && (front.head?.any Char.isAlpha) && front.all isSchemeChar then
    (lower (.ofList front), rest)
  else (default, cs)

def endsAuthority (c : Char) : Bool := c = '/' || c = '?' || c = '#'

/-- The authority behind two slashes, and the rest. -/
def splitAuthority : List Char → List Char × List Char
  | '/' :: '/' :: rest =>
    (rest.takeWhile fun c => !endsAuthority c, rest.dropWhile fun c => !endsAuthority c)
  | cs => ([], cs)

/-- The parameters behind the first semicolon of the last path segment. -/
def splitParams (path : List Char) : List Char × List Char :=
  let last := (path.reverse.takeWhile (· != '/')).reverse
  let (name, params) := cutAt (· = ';') last
  if last.contains ';' then (path.take (path.length - last.length) ++ name, params)
  else (path, [])

/-- Reads a reference; one without a scheme gets the default. -/
def Reference.ofChars? (default : String) (cs : List Char) : Except UrlError Reference := do
  let (scheme, rest) := splitScheme default (sanitize cs)
  let (authority, rest) := splitAuthority rest
  checkAuthority authority
  let (rest, fragment) := cutAt (· = '#') rest
  let (path, query) := cutAt (· = '?') rest
  let (path, params) :=
    if parameterSchemes.contains scheme then splitParams path else (path, [])
  return { scheme, authority, path, params, query, fragment }

/-- A mark and a part, or nothing if the part is empty. -/
def marked (mark : Char) (part : List Char) : List Char := if part.isEmpty then [] else mark :: part

/-- Writes a reference. One without an authority gets an empty one if its scheme has authorities,
unless its path starts with two slashes: these stand where an authority would, so that what follows
them reads as one. -/
def Reference.toChars (r : Reference) : List Char :=
  let path := r.path ++ marked ';' r.params
  let hasAuthority := !r.authority.isEmpty ||
    (r.scheme != "" && authoritySchemes.contains r.scheme && path.take 2 != ['/', '/'])
  let rooted := if path.isEmpty || path.head? = some '/' then path else '/' :: path
  let body := if hasAuthority then '/' :: '/' :: r.authority ++ rooted else path
  let scheme := if r.scheme = "" then [] else r.scheme.toList ++ [':']
  scheme ++ body ++ marked '?' r.query ++ marked '#' r.fragment

/-! ## Resolution -/

/-- A list without the empty members that are neither first nor last. -/
def dropInnerEmpty : List (List Char) → List (List Char)
  | [] => []
  | first :: rest =>
    first :: ((rest.dropLast.filter fun s => !s.isEmpty) ++ rest.getLast?.toList)

/-- The segments of the base path that stand in front of a relative path. -/
def baseSegments (path : List Char) : List (List Char) :=
  let segments := pieces (· = '/') path
  if segments.getLast? = some [] then segments else segments.dropLast

/-- One step of the removal of dot segments; `done` holds the kept segments, the last first. -/
def stepSegment (done : List (List Char)) (segment : List Char) : List (List Char) :=
  if segment = ['.', '.'] then done.tail
  else if segment = ['.'] then done
  else segment :: done

/-- The path that segments make without their dot segments. -/
def resolveSegments (segments : List (List Char)) : List Char :=
  let kept := (segments.foldl stepSegment []).reverse
  let last := segments.getLast?
  let kept := if last = some ['.'] || last = some ['.', '.'] then kept ++ [[]] else kept
  let path := ['/'].intercalate kept
  if path.isEmpty then ['/'] else path

/-- The path of a reference merged with the path of its base. -/
def mergePaths (base path : List Char) : List Char :=
  let segments := pieces (· = '/') path
  resolveSegments (if path.head? = some '/' then segments
    else dropInnerEmpty (baseSegments base ++ segments))

/-- The reference that `r` is under the base `b`, for a scheme that both share. -/
def Reference.under (b r : Reference) : Reference :=
  if authoritySchemes.contains r.scheme && !r.authority.isEmpty then r
  else
    let authority := if authoritySchemes.contains r.scheme then b.authority else r.authority
    if r.path.isEmpty && r.params.isEmpty then
      { r with
        authority, path := b.path, params := b.params
        query := if r.query.isEmpty then b.query else r.query }
    else { r with authority, path := mergePaths b.path r.path }

/-- The absolute form of a reference under a base; either text may be empty. -/
def resolve (base reference : String) : Except UrlError String := do
  if base = "" then return reference
  if reference = "" then return base
  let b ← Reference.ofChars? "" base.toList
  let r ← Reference.ofChars? b.scheme reference.toList
  if r.scheme != b.scheme || !relativeSchemes.contains r.scheme then return reference
  return .ofList (b.under r).toChars

end VCardKit.Url
