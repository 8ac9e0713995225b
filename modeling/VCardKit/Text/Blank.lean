/-
  Blank characters and the operations that ignore them: trimming a text at both ends, cutting it
  into words, and collapsing every run of blanks to one space. Sets of characters are given as
  closed ranges of code points, the form in which the tables of this library carry a Unicode
  property; all tables are those of Unicode 14.
-/
namespace VCardKit.Text

/-! ## Sets of characters -/

/-- Whether a code point lies in one of the given closed ranges. -/
def inRanges (ranges : List (Nat × Nat)) (n : Nat) : Bool :=
  ranges.any fun r => r.1 ≤ n && n ≤ r.2

/-- An ASCII control character other than the tab. -/
def isControl (c : Char) : Bool := (c.toNat < 0x20 && c != '\t') || c.toNat = 0x7F

/-! ## Blank characters -/

/-- The blank code points: the Unicode white space characters and the separators U+001C to
U+001F. The zero-width space and the byte order mark are not blank. -/
def blankRanges : List (Nat × Nat) :=
  [(0x09, 0x0D), (0x1C, 0x20), (0x85, 0x85), (0xA0, 0xA0), (0x1680, 0x1680), (0x2000, 0x200A),
   (0x2028, 0x2029), (0x202F, 0x202F), (0x205F, 0x205F), (0x3000, 0x3000)]

/-- A blank character. -/
def isBlank (c : Char) : Bool := inRanges blankRanges c.toNat

/-! ## Cutting at separators -/

/-- Puts a character in front of the first piece. -/
def consFirst (c : Char) : List (List Char) → List (List Char)
  | [] => [[c]]
  | piece :: rest => (c :: piece) :: rest

/-- The pieces of a text between the characters that satisfy `p`; there is one piece more than
there are separators. -/
def pieces (p : Char → Bool) : List Char → List (List Char)
  | [] => [[]]
  | c :: rest => if p c then [] :: pieces p rest else consFirst c (pieces p rest)

theorem pieces_ne_nil (p : Char → Bool) (cs : List Char) : pieces p cs ≠ [] := by
  cases cs with
  | nil => simp [pieces]
  | cons c rest =>
    unfold pieces
    split
    · simp
    · cases pieces p rest <;> simp [consFirst]

/-- The texts before and after the first character that satisfies `p`; the second is empty if there
is none. -/
def cutAt (p : Char → Bool) (cs : List Char) : List Char × List Char :=
  (cs.takeWhile fun c => !p c, (cs.dropWhile fun c => !p c).drop 1)

theorem length_dropWhile_le (p : Char → Bool) (cs : List Char) :
    (cs.dropWhile p).length ≤ cs.length := (List.dropWhile_sublist p).length_le

theorem length_cutAt_le (p : Char → Bool) (cs : List Char) :
    (cutAt p cs).2.length ≤ cs.length := by
  have h := length_dropWhile_le (fun c => !p c) cs
  simp only [cutAt, List.length_drop]
  omega

/-! ## Trimming, words, collapsing -/

/-- A text without the blanks in front. -/
def trimLeft (cs : List Char) : List Char := cs.dropWhile isBlank

/-- A text without the blanks at its end. -/
def trimRight (cs : List Char) : List Char := (cs.reverse.dropWhile isBlank).reverse

/-- A text without the blanks at both ends. -/
def trim (cs : List Char) : List Char := trimRight (trimLeft cs)

/-- A string without the blanks at both ends. -/
def strip (s : String) : String := .ofList (trim s.toList)

/-- The maximal runs of characters that are not blank. -/
def words (s : String) : List String :=
  ((pieces isBlank s.toList).filter fun w => !w.isEmpty).map .ofList

/-- Every maximal run of blanks becomes one space. -/
def collapse : List Char → List Char
  | [] => []
  | c :: rest =>
    if isBlank c then
      match rest with
      | [] => [' ']
      | d :: _ => if isBlank d then collapse rest else ' ' :: collapse rest
    else c :: collapse rest

end VCardKit.Text
