/-
  The authority part of a URL reference. Brackets may only stand around a whole IP address of the
  newer kind, in front of a port or of nothing; those in front of an at sign count for nothing, but
  then the host must be an address too. No character may fold to a delimiter when the host name is
  normalised.
-/
import VCardKit.Text.Blank
import VCardKit.Text.Digit
import VCardKit.Text.Quoted

namespace VCardKit.Url

open VCardKit.Text

/-- Why an authority is refused. -/
inductive UrlError where
  /-- A bracket without its partner, or text beside a bracketed host. -/
  | misplacedBracket
  /-- A bracketed address of a future version that is not of the form of one. -/
  | badFutureAddress
  /-- Brackets around something that is no address. -/
  | notAnAddress (host : String)
  /-- Brackets around an address of the older kind. -/
  | bracketedV4
  /-- A character that normalises to a delimiter. -/
  | hiddenDelimiter (authority : String)
  deriving DecidableEq, Repr

def UrlError.message : UrlError → String
  | misplacedBracket => "Invalid IPv6 URL"
  | badFutureAddress => "IPvFuture address is invalid"
  | notAnAddress host => quoted host ++ " does not appear to be an IPv4 or IPv6 address"
  | bracketedV4 => "An IPv4 address cannot be in brackets"
  | hiddenDelimiter authority =>
    "netloc '" ++ authority ++ "' contains invalid characters under NFKC normalization"

/-! ## Addresses -/

/-- One of the four numbers of an address of the older kind: at most 255, without leading zeros. -/
def isOctet (cs : List Char) : Bool :=
  !cs.isEmpty && cs.all Char.isDigit && cs.length ≤ 3 && (cs = ['0'] || cs.head? != some '0') &&
    cs.foldl (fun n c => 10 * n + (c.toNat - 48)) 0 ≤ 255

/-- An address of the older kind: four octets. -/
def isV4 (cs : List Char) : Bool :=
  let octets := pieces (· = '.') cs
  octets.length = 4 && octets.all isOctet

/-- One group of an address of the newer kind. -/
def isGroup (cs : List Char) : Bool := !cs.isEmpty && cs.all (isDigitIn 16) && cs.length ≤ 4

/-- The groups between colons; none in an empty text. -/
def groupsOf (cs : List Char) : List (List Char) :=
  if cs.isEmpty then [] else pieces (· = ':') cs

/-- How many groups stand in a list whose last member may be an address of the older kind, which
counts twice; none if a group is malformed. -/
def groupCount? : List (List Char) → Option Nat
  | [] => some 0
  | [last] => if isV4 last then some 2 else if isGroup last then some 1 else none
  | g :: rest => if isGroup g then (groupCount? rest).map (· + 1) else none

/-- The texts before and after the first double colon. -/
def splitGap : List Char → Option (List Char × List Char)
  | ':' :: ':' :: rest => some ([], rest)
  | c :: rest => (splitGap rest).map fun (l, r) => (c :: l, r)
  | [] => none

/-- An address of the newer kind without a scope: eight groups, or fewer with one gap. -/
def isPlainV6 (cs : List Char) : Bool :=
  match splitGap cs with
  | none => groupCount? (groupsOf cs) = some 8
  | some (left, right) =>
    (groupsOf left).all isGroup &&
      match groupCount? (groupsOf right) with
      | some n => (groupsOf left).length + n ≤ 7
      | none => false

/-- An address of the newer kind, perhaps with a scope behind a percent sign. -/
def isV6 (cs : List Char) : Bool :=
  match cs.dropWhile (· != '%') with
  | [] => isPlainV6 cs
  | _ :: scope => isPlainV6 (cs.takeWhile (· != '%')) && !scope.isEmpty && !scope.contains '%'

/-- The form of an address of a future version: the letter v, hexadecimal digits, a point and
anything. -/
def isFuture (cs : List Char) : Bool :=
  let rest := cs.drop 1
  !(rest.takeWhile (isDigitIn 16)).isEmpty &&
    match rest.dropWhile (isDigitIn 16) with
    | '.' :: tail => !tail.isEmpty
    | _ => false

/-- Checks a host that has to be an address. -/
def checkBracketed (host : List Char) : Except UrlError Unit :=
  if host.head? = some 'v' then
    if isFuture host then .ok () else .error .badFutureAddress
  else if isV4 host then .error .bracketedV4
  else if isV6 host then .ok ()
  else .error (.notAnAddress (.ofList host))

/-! ## The authority -/

/-- Characters beyond ASCII whose compatibility form holds a delimiter of a URL. -/
def hiddenDelimiters : List Nat :=
  [0x2047, 0x2048, 0x2049, 0x2100, 0x2101, 0x2105, 0x2106, 0x2A74, 0xFE13, 0xFE16, 0xFE55,
   0xFE56, 0xFE5F, 0xFE6B, 0xFF03, 0xFF0F, 0xFF1A, 0xFF1F, 0xFF20]

/-- The host and the port of an authority: what follows its last at sign. -/
def hostAndPort (authority : List Char) : List Char :=
  (authority.reverse.takeWhile (· != '@')).reverse

/-- Checks a host and a port of an authority with brackets. -/
def checkHost (cs : List Char) : Except UrlError Unit :=
  if cs.contains '[' then
    let (front, inner) := cutAt (· = '[') cs
    let (host, port) := cutAt (· = ']') inner
    if front.isEmpty && (port.isEmpty || port.head? = some ':') then checkBracketed host
    else .error .misplacedBracket
  else checkBracketed (cutAt (· = ':') cs).1

/-- Checks the brackets of an authority. -/
def checkBrackets (authority : List Char) : Except UrlError Unit :=
  match authority.contains '[', authority.contains ']' with
  | true, true => checkHost (hostAndPort authority)
  | false, false => .ok ()
  | _, _ => .error .misplacedBracket

/-- Checks that no character of an authority hides a delimiter. -/
def checkDelimiters (authority : List Char) : Except UrlError Unit :=
  if authority.any fun c => hiddenDelimiters.contains c.toNat then
    .error (.hiddenDelimiter (.ofList authority))
  else .ok ()

/-- Checks an authority. -/
def checkAuthority (authority : List Char) : Except UrlError Unit := do
  checkBrackets authority
  checkDelimiters authority

end VCardKit.Url
