/-
  The texts that stand for whole numbers. The grammar is given apart from the reader: blanks,
  perhaps a sign, digits of any script with single underscores between them, and blanks again. The
  reader takes a text exactly if the grammar derives it with few enough digits, and then gives the
  number that the digits write (`integer?_eq_some_iff`).
-/
import VCardKit.Decimal.Integer
import VCardKit.Proofs.Text.Digit

namespace VCardKit.Decimal

open VCardKit.Text

/-! ## Written numbers -/

/-- The values of the digits that are written for a number. -/
def digitsOf (n : Nat) : List Nat := (Nat.toDigits 10 n).map fun c => c.toNat - 48

theorem toList_toString (n : Nat) : (toString (n : Int)).toList = Nat.toDigits 10 n := by
  have hcast : toString (n : Int) = toString n := rfl
  rw [hcast, Nat.toString_eq_ofList_toDigits, String.toList_ofList]

theorem digits_toDigits (n : Nat) : Digits (Nat.toDigits 10 n) (digitsOf n) :=
  .of_ascii Nat.toDigits_ne_nil fun _ hc =>
    Nat.isDigit_of_mem_toDigits (by decide) (Nat.le_refl 10) hc

/-- Written digits are read as the number that was written. -/
theorem ofDigits_digitsOf (n : Nat) : ofDigits (digitsOf n) = n := by
  have hchars : ofDigits (digitsOf n) = Nat.ofDigitChars 10 (Nat.toDigits 10 n) 0 := by
    rw [ofDigits, digitsOf, List.foldl_map, Nat.ofDigitChars_eq_foldl]
    rfl
  rw [hchars, Nat.ofDigitChars_ten_toDigits]

theorem length_digitsOf_le_iff {n : Nat} :
    (digitsOf n).length ≤ digitLimit ↔ n < 10 ^ digitLimit := by
  rw [digitsOf, List.length_map]
  exact Nat.length_toDigits_le_iff (by decide) (by decide)

/-! ## Runs of digits -/

/-- Digits of any script with single underscores between them, and the values of the digits. -/
inductive DigitRun : List Char → List Nat → Prop
  | last {c : Char} {v : Nat} (hc : digitValue? c = some v) : DigitRun [c] [v]
  | digit {c : Char} {v : Nat} {cs : List Char} {vs : List Nat} (hc : digitValue? c = some v)
      (h : DigitRun cs vs) : DigitRun (c :: cs) (v :: vs)
  | gap {c : Char} {v : Nat} {cs : List Char} {vs : List Nat} (hc : digitValue? c = some v)
      (h : DigitRun cs vs) : DigitRun (c :: '_' :: cs) (v :: vs)

theorem digitRun?_cons_cons (c d : Char) (rest : List Char) :
    digitRun? (c :: d :: rest) = (digitValue? c).bind fun v =>
      (digitRun? (if d = '_' then rest else d :: rest)).map (v :: ·) := by
  rw [digitRun?]
  cases digitValue? c with
  | none => rfl
  | some v =>
    by_cases hd : d = '_'
    · simp only [Option.bind_eq_bind, Option.bind_some, if_pos hd]
      rw [Option.map_eq_bind]
      rfl
    · simp only [Option.bind_eq_bind, Option.bind_some, if_neg hd]
      rw [Option.map_eq_bind]
      rfl

namespace DigitRun

variable {cs : List Char} {vs : List Nat}

theorem exists_cons (h : DigitRun cs vs) : ∃ c rest, cs = c :: rest ∧ isDigit c = true := by
  cases h with
  | last hc => exact ⟨_, _, rfl, isDigit_of_digitValue? hc⟩
  | digit hc _ => exact ⟨_, _, rfl, isDigit_of_digitValue? hc⟩
  | gap hc _ => exact ⟨_, _, rfl, isDigit_of_digitValue? hc⟩

theorem exists_concat (h : DigitRun cs vs) : ∃ front c, cs = front ++ [c] ∧ isDigit c = true := by
  induction h with
  | last hc => exact ⟨[], _, rfl, isDigit_of_digitValue? hc⟩
  | @digit d _ _ _ _ _ ih =>
    obtain ⟨front, c, rfl, hc⟩ := ih
    exact ⟨d :: front, c, rfl, hc⟩
  | @gap d _ _ _ _ _ ih =>
    obtain ⟨front, c, rfl, hc⟩ := ih
    exact ⟨d :: '_' :: front, c, rfl, hc⟩

theorem mem (h : DigitRun cs vs) : ∀ c ∈ cs, isDigit c = true ∨ c = '_' := by
  induction h with
  | last hc => simp [isDigit_of_digitValue? hc]
  | digit hc _ ih =>
    exact List.forall_mem_cons.2 ⟨Or.inl (isDigit_of_digitValue? hc), ih⟩
  | gap hc _ ih =>
    exact List.forall_mem_cons.2 ⟨Or.inl (isDigit_of_digitValue? hc),
      List.forall_mem_cons.2 ⟨Or.inr rfl, ih⟩⟩

theorem digitRun?_eq_some (h : DigitRun cs vs) : digitRun? cs = some vs := by
  induction h with
  | last hc => rw [digitRun?, hc]; rfl
  | digit hc h ih =>
    -- The run goes on with a digit, so the reader has no underscore to leave out here.
    obtain ⟨d, rest, rfl, hd⟩ := h.exists_cons
    have hne : d ≠ '_' := by
      rintro rfl
      exact absurd hd (by decide)
    rw [digitRun?_cons_cons, hc, if_neg hne, ih]
    rfl
  | gap hc _ ih =>
    rw [digitRun?_cons_cons, hc, if_pos rfl, ih]
    rfl

theorem of_digitRun? (h : digitRun? cs = some vs) : DigitRun cs vs := by
  induction cs using digitRun?.induct generalizing vs with
  | case1 => cases h
  | case2 c =>
    obtain ⟨v, hv, rfl⟩ := Option.map_eq_some_iff.1 h
    exact .last hv
  | case3 c d rest ih₁ ih₂ =>
    rw [digitRun?_cons_cons] at h
    obtain ⟨v, hv, h⟩ := Option.bind_eq_some_iff.1 h
    obtain ⟨ws, hws, rfl⟩ := Option.map_eq_some_iff.1 h
    by_cases hd : d = '_'
    · rw [if_pos hd] at hws
      rw [hd]
      exact .gap hv (ih₁ hws)
    · rw [if_neg hd] at hws
      exact .digit hv (ih₂ hws)

end DigitRun

/-- The reader of digits takes the runs and no other text. -/
theorem digitRun?_eq_some_iff {cs : List Char} {vs : List Nat} :
    digitRun? cs = some vs ↔ DigitRun cs vs :=
  ⟨.of_digitRun?, fun h => h.digitRun?_eq_some⟩

/-! ## Signs -/

/-- What may stand in front of the digits. -/
inductive Sign where
  | none
  | plus
  | minus

namespace Sign

def text : Sign → List Char
  | none => []
  | plus => ['+']
  | minus => ['-']

def isMinus : Sign → Bool
  | minus => true
  | _ => false

/-- The number with the given sign and amount. -/
def apply (sign : Sign) (n : Nat) : Int := if sign.isMinus then -n else n

end Sign

/-- A text that starts with a digit has no sign of its own, so the sign in front of it is found. -/
theorem signed_append (sign : Sign) {run : List Char} {vs : List Nat} (h : DigitRun run vs) :
    signed (sign.text ++ run) = (sign.isMinus, run) := by
  cases sign with
  | plus => rfl
  | minus => rfl
  | none =>
    obtain ⟨c, rest, rfl, hc⟩ := h.exists_cons
    rw [Sign.text, List.nil_append, signed]
    · rfl
    · rintro _ hcs
      cases hcs
      exact absurd hc (by decide)
    · rintro _ hcs
      cases hcs
      exact absurd hc (by decide)

theorem exists_sign (cs : List Char) :
    ∃ sign : Sign, cs = sign.text ++ (signed cs).2 ∧ (signed cs).1 = sign.isMinus := by
  unfold signed
  split
  · exact ⟨.minus, rfl, rfl⟩
  · exact ⟨.plus, rfl, rfl⟩
  · exact ⟨.none, rfl, rfl⟩

/-! ## Blanks around a number -/

/-- Blanks that may stand around a number. -/
def IsPadding (cs : List Char) : Prop := ∀ c ∈ cs, isNumberBlank c = true

theorem isNumberBlank_of_isDigit {c : Char} (h : isDigit c = true) : isNumberBlank c = false := by
  rw [isNumberBlank, isBlank_of_isDigit h, Bool.false_and]

theorem isBlank_of_isNumberBlank {c : Char} (h : isNumberBlank c = true) : isBlank c = true :=
  (Bool.and_eq_true_iff.1 h).1

/-- A text whose first and last characters are none of the blanks around a number. -/
structure Bounded (cs : List Char) : Prop where
  first : ∃ c rest, cs = c :: rest ∧ isNumberBlank c = false
  last : ∃ front c, cs = front ++ [c] ∧ isNumberBlank c = false

theorem DigitRun.bounded {cs : List Char} {vs : List Nat} (h : DigitRun cs vs) : Bounded cs := by
  obtain ⟨c, rest, hfirst, hc⟩ := h.exists_cons
  obtain ⟨front, d, hlast, hd⟩ := h.exists_concat
  exact ⟨⟨c, rest, hfirst, isNumberBlank_of_isDigit hc⟩,
    ⟨front, d, hlast, isNumberBlank_of_isDigit hd⟩⟩

theorem bounded_sign_append (sign : Sign) {cs : List Char} (h : Bounded cs) :
    Bounded (sign.text ++ cs) := by
  obtain ⟨⟨c, rest, hfirst, hc⟩, ⟨front, d, hlast, hd⟩⟩ := h
  refine ⟨?_, ⟨sign.text ++ front, d, by rw [hlast, List.append_assoc], hd⟩⟩
  cases sign with
  | none => exact ⟨c, rest, hfirst, hc⟩
  | plus => exact ⟨'+', cs, rfl, by decide⟩
  | minus => exact ⟨'-', cs, rfl, by decide⟩

/-- Trimming takes padding away and stops at the first and at the last other character. -/
theorem trimNumber_padded {front mid back : List Char} (hfront : IsPadding front)
    (hmid : Bounded mid) (hback : IsPadding back) : trimNumber (front ++ (mid ++ back)) = mid := by
  obtain ⟨⟨c, rest, hfirst, hc⟩, ⟨init, d, hlast, hd⟩⟩ := hmid
  have hleft : (front ++ (mid ++ back)).dropWhile isNumberBlank = mid ++ back := by
    rw [List.dropWhile_append_of_pos hfront, hfirst, List.cons_append,
      List.dropWhile_cons_of_neg (by simp [hc])]
  have hreverse : (mid ++ back).reverse = back.reverse ++ mid.reverse := List.reverse_append
  have hpad : ∀ e ∈ back.reverse, isNumberBlank e = true := fun e he =>
    hback e (List.mem_reverse.1 he)
  have hstop : mid.reverse.dropWhile isNumberBlank = mid.reverse := by
    rw [hlast, List.reverse_append, List.reverse_singleton, List.singleton_append,
      List.dropWhile_cons_of_neg (by simp [hd])]
  rw [trimNumber, hleft, hreverse, List.dropWhile_append_of_pos hpad, hstop, List.reverse_reverse]

/-- What trimming takes away is padding. -/
theorem exists_padding (cs : List Char) : ∃ front back, IsPadding front ∧ IsPadding back ∧
    cs = front ++ (trimNumber cs ++ back) := by
  have hall : ∀ l : List Char, IsPadding (l.takeWhile isNumberBlank) := fun _ =>
    List.all_eq_true.1 List.all_takeWhile
  refine ⟨cs.takeWhile isNumberBlank,
    ((cs.dropWhile isNumberBlank).reverse.takeWhile isNumberBlank).reverse, hall _,
    fun c hc => hall _ c (List.mem_reverse.1 hc), ?_⟩
  rw [trimNumber, ← List.reverse_append, List.takeWhile_append_dropWhile, List.reverse_reverse,
    List.takeWhile_append_dropWhile]

/-! ## Whole numbers -/

/-- A text that stands for a whole number. -/
inductive Numeral : List Char → Int → Prop
  | padded {front back run : List Char} {vs : List Nat} (sign : Sign) (hfront : IsPadding front)
      (hrun : DigitRun run vs) (hback : IsPadding back) (hlength : vs.length ≤ digitLimit) :
      Numeral (front ++ (sign.text ++ run ++ back)) (sign.apply (ofDigits vs))

namespace Numeral

variable {cs : List Char} {n : Int}

theorem mem (h : Numeral cs n) :
    ∀ c ∈ cs, isBlank c = true ∨ c ∈ ['+', '-', '_'] ∨ isDigit c = true := by
  obtain ⟨sign, hfront, hrun, hback, -⟩ := h
  intro c hc
  simp only [List.mem_append] at hc
  rcases hc with hc | (hc | hc) | hc
  · exact Or.inl (isBlank_of_isNumberBlank (hfront c hc))
  · cases sign <;> simp_all [Sign.text]
  · rcases hrun.mem c hc with hd | rfl
    · exact Or.inr (Or.inr hd)
    · simp
  · exact Or.inl (isBlank_of_isNumberBlank (hback c hc))

theorem ne_nil (h : Numeral cs n) : cs ≠ [] := by
  obtain ⟨sign, -, hrun, -, -⟩ := h
  obtain ⟨c, rest, rfl, -⟩ := hrun.exists_cons
  simp

end Numeral

/-- Digits in a row are a run without underscores. -/
theorem DigitRun.of_digits {cs : List Char} {vs : List Nat} (h : Digits cs vs) :
    DigitRun cs vs := by
  obtain ⟨hne, hvalues⟩ := h
  induction cs generalizing vs with
  | nil => exact absurd rfl hne
  | cons c cs ih =>
    cases vs with
    | nil => cases hvalues
    | cons v vs =>
      have hpair : digitValue? c = some v ∧ cs.map digitValue? = vs.map some := by
        simpa using hvalues
      obtain ⟨hc, hrest⟩ := hpair
      by_cases hnil : cs = []
      · subst hnil
        have hvs : vs = [] := by simpa using hrest.symm
        rw [hvs]
        exact .last hc
      · exact .digit hc (ih hnil hrest)

theorem isWritable_iff {n : Int} : isWritable n = true ↔ n.natAbs < 10 ^ digitLimit := by
  rw [isWritable, decide_eq_true_eq, Nat.pow_eq]

/-- What is written for a number with few enough digits stands for it. -/
theorem numeral_toString {n : Nat} (h : n < 10 ^ digitLimit) :
    Numeral (toString (n : Int)).toList n := by
  have hrun : DigitRun (Nat.toDigits 10 n) (digitsOf n) := .of_digits (digits_toDigits n)
  have hempty : IsPadding [] := by
    intro c hc
    cases hc
  have hnumeral := Numeral.padded .none hempty hrun hempty (length_digitsOf_le_iff.2 h)
  have hnumber : Sign.none.apply (ofDigits (digitsOf n)) = (n : Int) := by
    rw [ofDigits_digitsOf]
    rfl
  rw [toList_toString]
  simpa [Sign.text, hnumber] using hnumeral

/-- The reader of whole numbers takes the texts that the grammar derives, and gives their number. -/
theorem integer?_eq_some_iff {s : String} {n : Int} : integer? s = some n ↔ Numeral s.toList n := by
  constructor
  · intro h
    obtain ⟨front, back, hfront, hback, hcs⟩ := exists_padding s.toList
    obtain ⟨sign, hsign, hminus⟩ := exists_sign (trimNumber s.toList)
    unfold integer? at h
    dsimp only at h
    split at h
    · cases h
    · next vs hvs =>
      split at h
      · next hlength =>
        cases h
        rw [hminus, hcs, hsign]
        exact .padded sign hfront (digitRun?_eq_some_iff.1 hvs) hback hlength
      · cases h
  · intro h
    generalize hcs : s.toList = cs at h
    obtain ⟨sign, hfront, hrun, hback, hlength⟩ := h
    have htrim := trimNumber_padded hfront (bounded_sign_append sign hrun.bounded) hback
    unfold integer?
    rw [hcs, htrim, signed_append sign hrun]
    dsimp only
    rw [digitRun?_eq_some_iff.2 hrun]
    dsimp only
    rw [if_pos hlength]
    rfl

end VCardKit.Decimal
