/-
  Upper and lower case of a text. ASCII letters are mapped by core; beyond ASCII the tables decide.
  One character may become several, and a capital sigma becomes the final form at the end of a
  word. Names are compared through their upper case.
-/
import VCardKit.Text.Blank
import VCardKit.Text.CaseTable

namespace VCardKit.Text

/-! ## One character -/

/-- The image of a code point under a run that holds it. -/
def CaseRun.image? (r : CaseRun) (n : Nat) : Option Nat :=
  if r.first ≤ n && n ≤ r.last && (n - r.first) % r.step = 0 then some (n + r.shift).toNat else none

/-- What a table makes of a character; a character that it does not name stays. -/
def mapCase (runs : List CaseRun) (expansions : List (Nat × List Nat)) (c : Char) : List Char :=
  match expansions.lookup c.toNat with
  | some ns => ns.map Char.ofNat
  | none =>
    match runs.findSome? (·.image? c.toNat) with
    | some n => [Char.ofNat n]
    | none => [c]

/-- The upper case of a character. -/
def upperChar (c : Char) : List Char :=
  if c.toNat < 128 then [c.toUpper] else mapCase upperRuns upperExpansions c

/-- The lower case of a character that is no capital sigma. -/
def lowerChar (c : Char) : List Char :=
  if c.toNat < 128 then [c.toLower] else mapCase lowerRuns lowerExpansions c

/-! ## Texts -/

/-- The upper case of a text. -/
def upper (s : String) : String := .ofList (s.toList.flatMap upperChar)

def isCased (c : Char) : Bool := inRanges casedRanges c.toNat

def isCaseIgnorable (c : Char) : Bool := inRanges caseIgnorableRanges c.toNat

/-- Whether the first character that counts is a letter with case. -/
def startsCased : List Char → Bool
  | [] => false
  | c :: rest => if isCaseIgnorable c then startsCased rest else isCased c

/-- The lower case of characters. `cased` says whether the last character that counted before them
is a letter with case: a capital sigma behind one and with none after it is final. -/
def lowerChars (cased : Bool) : List Char → List Char
  | [] => []
  | c :: rest =>
    let next := lowerChars (if isCaseIgnorable c then cased else isCased c) rest
    if c = 'Σ' then (if cased && !startsCased rest then 'ς' else 'σ') :: next
    else lowerChar c ++ next

/-- The lower case of a text. -/
def lower (s : String) : String := .ofList (lowerChars false s.toList)

end VCardKit.Text
