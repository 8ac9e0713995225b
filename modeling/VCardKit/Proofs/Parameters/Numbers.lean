/-
  Parameters whose values are numbers. A container passes in version 4.0 exactly if its ranks are
  numerals from 1 to 100, its positions positive numerals, its property identifiers runs of digits,
  none with a control character, and its other rows pass (`validate_eq_nil_iff_numericForms`). A
  numeral may have blanks around it, a sign, underscores and digits of any script, so what passes is
  not yet what the wire takes: it is plain ASCII digits exactly if it has none of these.
-/
import VCardKit.Proofs.Parameters.Pids

namespace VCardKit.Parameters

open Decimal (Numeral)

variable {c : Parameters} {version : Version} {n v : String}

/-! ## Numerals in a range -/

/-- A text that stands for a rank. -/
def IsRank (v : String) : Prop := ∃ n, Numeral v.toList n ∧ 1 ≤ n ∧ n ≤ 100

/-- A text that stands for a position. -/
def IsPosition (v : String) : Prop := ∃ n, Numeral v.toList n ∧ 0 < n

theorem integer?_any_iff {ok : Int → Bool} :
    (Decimal.integer? v).any ok = true ↔ ∃ n, Numeral v.toList n ∧ ok n = true := by
  simp only [Option.any_eq_true, Decimal.integer?_eq_some_iff]

theorem integer?_any_isPref_iff : (Decimal.integer? v).any isPref = true ↔ IsRank v := by
  simp only [integer?_any_iff, IsRank, isPref, Bool.and_eq_true, decide_eq_true_eq]

theorem integer?_any_isIndex_iff : (Decimal.integer? v).any isIndex = true ↔ IsPosition v := by
  simp only [integer?_any_iff, IsPosition, isIndex, decide_eq_true_eq]

/-- The warning that a value is no rank. -/
def invalidPref (v : String) : Warning :=
  .parameter ("PREF must be an integer between 1 and 100, got \"" ++ v ++ "\".")

theorem invalidPref_mem_iff :
    invalidPref v ∈ c.validate version ↔ v ∈ c.get "PREF" ∧ ¬ IsRank v := by
  have hrefused : invalidPref v ∈ c.validate version ↔
      v ∈ c.get "PREF" ∧ (Decimal.integer? v).any isPref = false :=
    mem_validate_iff_of_refused "PREF" "PREF must be an integer between 1 and 100, got \""
      (by decide +kernel) (by decide +kernel) (by decide +kernel) fun _ => rfl
  rwa [← Bool.not_eq_true, integer?_any_isPref_iff] at hrefused

/-! ## Rows without a warning -/

/-- No character of a text is a control character. -/
def HasNoControl (v : String) : Prop := ∀ ch ∈ v.toList, Text.isControl ch = false

theorem entryWarnings_eq_nil_iff {vs : List String} : entryWarnings version (n, vs) = [] ↔
    nameWarnings version n = [] ∧
      ∀ v ∈ vs, HasNoControl v ∧ valueProblem? version n v = none := by
  have hvalue : ∀ v, valueWarnings version n v = [] ↔
      HasNoControl v ∧ valueProblem? version n v = none := fun v => by
    rw [valueWarnings, List.append_eq_nil_iff, List.map_eq_nil_iff, Option.toList_eq_nil_iff]
    refine and_congr_left' ?_
    simp only [ite_eq_right_iff, List.cons_ne_nil, imp_false, HasNoControl, ← Bool.not_eq_true,
      List.any_eq_true, not_exists, not_and]
  simp only [entryWarnings, List.append_eq_nil_iff, List.flatMap_eq_nil_iff, hvalue]

theorem validate_eq_nil_iff : c.validate version = [] ↔
    ∀ n ∈ c.names, entryWarnings version (n, c.get n) = [] := by
  rw [validate, List.flatMap_eq_nil_iff]
  exact forall_mem_entries_iff (P := fun n vs => entryWarnings version (n, vs) = [])

/-! ## Rows of numbers -/

/-- The names whose values are numbers. -/
def numericNames : List String := ["PREF", "INDEX", "PID"]

theorem key_of_mem_numericNames : ∀ n ∈ numericNames, key n = n := by decide +kernel

theorem nameWarnings_of_mem_numericNames :
    ∀ n ∈ numericNames, nameWarnings .v4_0 n = [] := by decide +kernel

/-- The form of a value that passes under one of the names. -/
structure NumericForms (c : Parameters) : Prop where
  pref : ∀ v ∈ c.get "PREF", HasNoControl v ∧ IsRank v
  index : ∀ v ∈ c.get "INDEX", HasNoControl v ∧ IsPosition v
  pid : ∀ v ∈ c.get "PID", ∃ digits, PidLine v.toList digits

/-- Without control characters no line feed stands behind an identifier. -/
theorem hasNoControl_and_pidDigits?_iff : HasNoControl v ∧ (pidDigits? v).isSome = true ↔
    ∃ digits, PidLine v.toList digits := by
  rw [Option.isSome_iff_exists]
  simp only [pidDigits?_eq_some_iff]
  constructor
  · rintro ⟨hcontrol, digits, hline | ⟨cs, -, hcs⟩⟩
    · exact ⟨digits, hline⟩
    · have hbreak : '\n' ∈ v.toList := by
        rw [hcs]
        exact List.mem_append_right _ (List.mem_singleton_self _)
      exact absurd (hcontrol _ hbreak) (by decide)
  · rintro ⟨digits, hline⟩
    refine ⟨fun ch hch => ?_, digits, Or.inl hline⟩
    rcases hline.mem ch hch with hdigit | rfl
    · exact Text.isControl_of_isDigit hdigit
    · decide

/-- The rows of numbers give no warning exactly if their values have the forms. -/
theorem numericForms_iff : NumericForms c ↔
    ∀ n ∈ numericNames, ∀ v ∈ c.get n, HasNoControl v ∧ valueProblem? .v4_0 n v = none := by
  have hpasses : ∀ {p : Prop} [Decidable p] {t : String},
      (if p then none else some t) = none ↔ p := by
    simp
  have hpref : ∀ v, valueProblem? .v4_0 "PREF" v = none ↔ IsRank v := fun v =>
    hpasses.trans integer?_any_isPref_iff
  have hindex : ∀ v, valueProblem? .v4_0 "INDEX" v = none ↔ IsPosition v := fun v =>
    hpasses.trans integer?_any_isIndex_iff
  have hpid : ∀ v, valueProblem? .v4_0 "PID" v = none ↔ (pidDigits? v).isSome = true := fun v =>
    hpasses
  simp only [numericNames, List.forall_mem_cons, List.not_mem_nil, false_implies, implies_true,
    and_true, hpref, hindex, hpid, hasNoControl_and_pidDigits?_iff]
  exact ⟨fun h => ⟨h.pref, h.index, h.pid⟩, fun h => ⟨h.1, h.2.1, h.2.2⟩⟩

/-! ## Plain numbers -/

/-- One or more ASCII digits. -/
def IsPlain (cs : List Char) : Prop := cs ≠ [] ∧ ∀ ch ∈ cs, ch.isDigit = true

/-- ASCII digits, or two runs of them with a point between. -/
def IsPlainPid (cs : List Char) : Prop :=
  IsPlain cs ∨ ∃ front back, IsPlain front ∧ IsPlain back ∧ cs = front ++ '.' :: back

/-- All numbers are in ASCII digits. -/
structure PlainNumbers (c : Parameters) : Prop where
  pref : ∀ v ∈ c.get "PREF", IsPlain v.toList
  index : ∀ v ∈ c.get "INDEX", IsPlain v.toList
  pid : ∀ v ∈ c.get "PID", IsPlainPid v.toList

/-- What a numeral may have beyond ASCII digits: other scripts, blanks, signs and underscores. -/
def IsAdornment (ch : Char) : Prop :=
  128 ≤ ch.toNat ∨ Text.isBlank ch = true ∨ ch ∈ ['+', '-', '_']

instance : DecidablePred IsAdornment := fun ch =>
  inferInstanceAs (Decidable (128 ≤ ch.toNat ∨ Text.isBlank ch = true ∨ ch ∈ ['+', '-', '_']))

def IsUnadorned (cs : List Char) : Prop := ∀ ch ∈ cs, ¬ IsAdornment ch

instance : DecidablePred IsUnadorned := fun cs =>
  List.decidableBAll (fun ch => ¬ IsAdornment ch) cs

theorem isDigit_of_not_isAdornment {ch : Char} (h : ¬ IsAdornment ch)
    (hdigit : Text.isDigit ch = true) : ch.isDigit = true :=
  Text.isDigit_ascii (Nat.lt_of_not_le fun hch => h (Or.inl hch)) hdigit

theorem not_isAdornment_of_isDigit {ch : Char} (h : ch.isDigit = true) : ¬ IsAdornment ch := by
  have hch : ch.toNat < 128 := Text.toNat_lt_of_isDigit h
  exact Text.ascii_forall (P := fun ch => ch.isDigit = true → ¬ IsAdornment ch)
    (by decide +kernel) hch h

theorem IsPlain.isUnadorned {cs : List Char} (h : IsPlain cs) : IsUnadorned cs := fun ch hch =>
  not_isAdornment_of_isDigit (h.2 ch hch)

theorem isPlain_iff_of_numeral {cs : List Char} {k : Int} (h : Numeral cs k) :
    IsPlain cs ↔ IsUnadorned cs := by
  refine ⟨IsPlain.isUnadorned, fun hbare => ⟨h.ne_nil, fun ch hch => ?_⟩⟩
  have hnone := hbare ch hch
  rcases h.mem ch hch with hblank | hsign | hdigit
  · exact absurd (Or.inr (Or.inl hblank)) hnone
  · exact absurd (Or.inr (Or.inr hsign)) hnone
  · exact isDigit_of_not_isAdornment hnone hdigit

theorem isPlain_of_digits {cs : List Char} {vs : List Nat} (h : Text.Digits cs vs)
    (hbare : IsUnadorned cs) : IsPlain cs :=
  ⟨h.ne_nil, fun ch hch => isDigit_of_not_isAdornment (hbare ch hch) (h.isDigit ch hch)⟩

theorem IsPlainPid.isUnadorned {cs : List Char} (h : IsPlainPid cs) : IsUnadorned cs := by
  rcases h with hplain | ⟨front, back, hfront, hback, rfl⟩
  · exact hplain.isUnadorned
  · exact List.forall_mem_append.2 ⟨hfront.isUnadorned,
      List.forall_mem_cons.2 ⟨by decide, hback.isUnadorned⟩⟩

theorem isPlainPid_iff_of_pidLine {cs : List Char} {digits : List Nat × Option (List Nat)}
    (h : PidLine cs digits) : IsPlainPid cs ↔ IsUnadorned cs := by
  refine ⟨IsPlainPid.isUnadorned, fun hbare => ?_⟩
  cases h with
  | single h => exact Or.inl (isPlain_of_digits h hbare)
  | pair h h' =>
    obtain ⟨hfront, hback⟩ := List.forall_mem_append.1 hbare
    exact Or.inr ⟨_, _, isPlain_of_digits h hfront,
      isPlain_of_digits h' (List.forall_mem_cons.1 hback).2, rfl⟩

/-- No number has anything beyond ASCII digits. -/
structure Unadorned (c : Parameters) : Prop where
  pref : ∀ v ∈ c.get "PREF", IsUnadorned v.toList
  index : ∀ v ∈ c.get "INDEX", IsUnadorned v.toList
  pid : ∀ v ∈ c.get "PID", IsUnadorned v.toList

theorem NumericForms.plainNumbers_iff (h : NumericForms c) : PlainNumbers c ↔ Unadorned c := by
  have hpref : (∀ v ∈ c.get "PREF", IsPlain v.toList) ↔
      ∀ v ∈ c.get "PREF", IsUnadorned v.toList :=
    forall₂_congr fun v hv => by
      obtain ⟨-, k, hk, -⟩ := h.pref v hv
      exact isPlain_iff_of_numeral hk
  have hindex : (∀ v ∈ c.get "INDEX", IsPlain v.toList) ↔
      ∀ v ∈ c.get "INDEX", IsUnadorned v.toList :=
    forall₂_congr fun v hv => by
      obtain ⟨-, k, hk, -⟩ := h.index v hv
      exact isPlain_iff_of_numeral hk
  have hpid : (∀ v ∈ c.get "PID", IsPlainPid v.toList) ↔
      ∀ v ∈ c.get "PID", IsUnadorned v.toList :=
    forall₂_congr fun v hv => by
      obtain ⟨digits, hline⟩ := h.pid v hv
      exact isPlainPid_iff_of_pidLine hline
  exact ⟨fun hplain => ⟨hpref.1 hplain.pref, hindex.1 hplain.index, hpid.1 hplain.pid⟩,
    fun hbare => ⟨hpref.2 hbare.pref, hindex.2 hbare.index, hpid.2 hbare.pid⟩⟩

/-! ## What passes -/

/-- **What passes as a number.** A container gives no warning in version 4.0 exactly if its numbers
have the forms and its other rows give none; and then its numbers are plain exactly if none has an
adornment. -/
theorem validate_eq_nil_iff_numericForms (c : Parameters) :
    (c.validate .v4_0 = [] ↔ NumericForms c ∧
      ∀ n ∈ c.names, n ∉ numericNames → entryWarnings .v4_0 (n, c.get n) = []) ∧
    (c.validate .v4_0 = [] → (PlainNumbers c ↔ Unadorned c)) := by
  have hiff : c.validate .v4_0 = [] ↔ NumericForms c ∧
      ∀ n ∈ c.names, n ∉ numericNames → entryWarnings .v4_0 (n, c.get n) = [] := by
    rw [validate_eq_nil_iff, numericForms_iff]
    constructor
    · intro h
      -- A name without values has no row, so only names with a value are asked for.
      refine ⟨fun n hn v hv => ?_, fun n hn _ => h n hn⟩
      have hstored := mem_names_of_mem_get (key_of_mem_numericNames n hn) hv
      exact (entryWarnings_eq_nil_iff.1 (h n hstored)).2 v hv
    · rintro ⟨hnumeric, hothers⟩ n hn
      by_cases hname : n ∈ numericNames
      · exact entryWarnings_eq_nil_iff.2
          ⟨nameWarnings_of_mem_numericNames n hname, hnumeric n hname⟩
      · exact hothers n hn hname
  exact ⟨hiff, fun h => (hiff.1 h).1.plainNumbers_iff⟩

/-- Unadorned numbers that pass are plain. -/
theorem validate_eq_nil_iff_numericForms_unadorned :
    let c := ofList [("PREF", "7"), ("INDEX", "12"), ("PID", "1.2")]
    c.validate .v4_0 = [] ∧ PlainNumbers c := by
  intro c
  have hpasses : c.validate .v4_0 = [] := by decide +kernel
  have hbare : Unadorned c := ⟨by decide +kernel, by decide +kernel, by decide +kernel⟩
  exact ⟨hpasses, ((validate_eq_nil_iff_numericForms c).2 hpasses).2 hbare⟩

/-- A blank before a rank, an underscore in a position and a digit of another script pass. -/
theorem passes_adorned :
    let c := ofList [("PREF", " 5"), ("INDEX", "1_0"), ("PID", "١")]
    c.validate .v4_0 = [] ∧
      (" 5" ∈ c.get "PREF" ∧ ¬ IsPlain " 5".toList) ∧
      ("1_0" ∈ c.get "INDEX" ∧ ¬ IsPlain "1_0".toList) ∧
      ("١" ∈ c.get "PID" ∧ ¬ IsPlainPid "١".toList) := by
  intro c
  refine ⟨by decide +kernel, ⟨by decide +kernel, ?_⟩, ⟨by decide +kernel, ?_⟩,
    by decide +kernel, ?_⟩
  · exact fun h => absurd h.isUnadorned (by decide +kernel)
  · exact fun h => absurd h.isUnadorned (by decide +kernel)
  · exact fun h => absurd h.isUnadorned (by decide +kernel)

end VCardKit.Parameters
