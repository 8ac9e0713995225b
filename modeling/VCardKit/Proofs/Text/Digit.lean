/-
  Digits among the other characters. The ASCII digits are digits, with their usual values, and among
  the ASCII characters no other one is. No digit of any script is blank or a control character: the
  scripts are compared with the table of blanks as a whole.
-/
import VCardKit.Text.Digit
import VCardKit.Proofs.Text.Ascii
import VCardKit.Proofs.Text.Blank

namespace VCardKit.Text

variable {c : Char}

/-! ## ASCII digits -/

theorem toNat_lt_of_isDigit (h : c.isDigit = true) : c.toNat < 128 := by
  simp only [Char.isDigit, Bool.and_eq_true, decide_eq_true_eq, UInt32.le_iff_toNat_le] at h
  exact Nat.lt_of_le_of_lt h.2 (by decide)

theorem digitValue?_of_isDigit (h : c.isDigit = true) : digitValue? c = some (c.toNat - 48) :=
  ascii_forall (P := fun c => c.isDigit = true → digitValue? c = some (c.toNat - 48))
    (by decide +kernel) (toNat_lt_of_isDigit h) h

/-- Among ASCII characters, core knows the digits. -/
theorem isDigit_ascii (h : c.toNat < 128) (hd : isDigit c = true) : c.isDigit = true :=
  ascii_forall (P := fun c => isDigit c = true → c.isDigit = true) (by decide +kernel) h hd

theorem isDigit_of_digitValue? {v : Nat} (h : digitValue? c = some v) : isDigit c = true := by
  rw [isDigit, h]
  rfl

/-! ## Digits, blanks and control characters -/

/-- The ten digits of a script lie wholly before or behind each range of blanks. -/
theorem digitZeros_apart_from_blankRanges :
    ∀ z ∈ digitZeros, ∀ r ∈ blankRanges, r.2 < z ∨ z + 10 ≤ r.1 := by
  decide +kernel

theorem isBlank_of_isDigit (h : isDigit c = true) : isBlank c = false := by
  obtain ⟨z, hz, hzc⟩ : ∃ z ∈ digitZeros, z ≤ c.toNat ∧ c.toNat < z + 10 := by
    simpa [isDigit, digitValue?] using h
  rw [isBlank, inRanges, List.any_eq_false]
  intro r hr hrc
  have hapart := digitZeros_apart_from_blankRanges z hz r hr
  simp only [Bool.and_eq_true, decide_eq_true_eq] at hrc
  omega

theorem isControl_of_isDigit (h : isDigit c = true) : isControl c = false := by
  by_cases hc : c.toNat < 128
  · exact ascii_forall (P := fun c => isDigit c = true → isControl c = false) (by decide +kernel)
      hc h
  · rw [isControl, Bool.or_eq_false_iff, Bool.and_eq_false_iff, decide_eq_false_iff_not,
      decide_eq_false_iff_not]
    omega

/-! ## Numbers in digits -/

/-- One or more digits of any script, and their values. -/
structure Digits (cs : List Char) (vs : List Nat) : Prop where
  ne_nil : cs ≠ []
  values : cs.map digitValue? = vs.map some

namespace Digits

variable {cs : List Char} {vs : List Nat}

theorem isDigit (h : Digits cs vs) : ∀ c ∈ cs, Text.isDigit c = true := by
  intro c hc
  have hmem : digitValue? c ∈ vs.map some := h.values ▸ List.mem_map_of_mem hc
  obtain ⟨v, -, hv⟩ := List.mem_map.1 hmem
  exact isDigit_of_digitValue? hv.symm

theorem values_ne_nil (h : Digits cs vs) : vs ≠ [] := by
  rintro rfl
  exact h.ne_nil (List.map_eq_nil_iff.1 h.values)

theorem filterMap_eq (h : Digits cs vs) : cs.filterMap digitValue? = vs := by
  have hcs : cs.filterMap digitValue? = (cs.map digitValue?).filterMap id := by
    rw [List.filterMap_map]
    rfl
  rw [hcs, h.values, List.filterMap_map]
  exact List.filterMap_some

theorem of_isDigit (hne : cs ≠ []) (h : ∀ c ∈ cs, Text.isDigit c = true) :
    Digits cs (cs.filterMap digitValue?) := by
  refine ⟨hne, ?_⟩
  clear hne
  induction cs with
  | nil => rfl
  | cons c rest ih =>
    obtain ⟨hc, hrest⟩ := List.forall_mem_cons.1 h
    obtain ⟨v, hv⟩ := Option.isSome_iff_exists.1 hc
    rw [List.map_cons, List.filterMap_cons_some hv, List.map_cons, hv, ih hrest]

theorem of_ascii (hne : cs ≠ []) (h : ∀ c ∈ cs, c.isDigit = true) :
    Digits cs (cs.map fun c => c.toNat - 48) := by
  refine ⟨hne, ?_⟩
  rw [List.map_map]
  exact List.map_congr_left fun c hc => digitValue?_of_isDigit (h c hc)

/-- Digits with another character behind them, or with the end, are the digits that come first. -/
theorem takeWhile_append {rest : List Char} (h : Digits cs vs)
    (hrest : ∀ c ∈ rest.head?, Text.isDigit c = false) :
    (cs ++ rest).takeWhile Text.isDigit = cs ∧ (cs ++ rest).dropWhile Text.isDigit = rest := by
  rw [List.takeWhile_append_of_pos h.isDigit, List.dropWhile_append_of_pos h.isDigit]
  cases rest with
  | nil => simp
  | cons c rest =>
    have hc : Text.isDigit c = false := hrest c rfl
    rw [List.takeWhile_cons_of_neg (by simp [hc]), List.dropWhile_cons_of_neg (by simp [hc]),
      List.append_nil]
    exact ⟨rfl, rfl⟩

end Digits

end VCardKit.Text
