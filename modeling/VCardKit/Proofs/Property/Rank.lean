/-
  Ranks in the order of preference. The order takes every whole number that the first rank of a
  property stands for; validation takes those from 1 to 100. So a property is ranked exactly if
  validation lets its first rank pass or the rank is a stray one, a number out of range, and the two
  agree where no rank is stray (`isRanked_iff_valid_or_stray`). A stray rank of zero or less comes
  before all valid ones.
-/
import VCardKit.Property.Preference
import VCardKit.Property.TextValue
import VCardKit.Proofs.Parameters.Numbers

namespace VCardKit

/-! ## The order on preferences -/

namespace Preference

theorem before_ranked_iff {j k : Int} :
    before ⟨false, j⟩ ⟨false, k⟩ = true ↔ j < k := by
  have hkeys : compare ⟨false, j⟩ ⟨false, k⟩ = Ord.compare j k := rfl
  rw [before, hkeys, beq_iff_eq, Int.compare_eq_lt]

theorem not_before_of_unranked (j k : Int) : before ⟨true, j⟩ ⟨false, k⟩ = false := rfl

end Preference

/-! ## The number that a first rank stands for -/

namespace Parameters

variable {c : Parameters}

theorem pref?_eq_some_iff {k : Int} :
    c.pref? = some k ↔ ∃ v, c.first? "PREF" = some v ∧ Decimal.Numeral v.toList k := by
  simp only [pref?, Option.bind_eq_some_iff, Decimal.integer?_eq_some_iff]

theorem mem_get_of_first? {n v : String} (h : c.first? n = some v) : v ∈ c.get n :=
  List.mem_of_mem_head? h

/-- A first rank is found wanting exactly if it stands for no number in the range. -/
theorem invalidPref_mem_iff_of_first? {version : Version} {v : String}
    (h : c.first? "PREF" = some v) :
    invalidPref v ∈ c.validate version ↔ ∀ k, c.pref? = some k → ¬ (1 ≤ k ∧ k ≤ 100) := by
  have hnumber : ∀ k, c.pref? = some k ↔ Decimal.Numeral v.toList k := fun k => by
    rw [pref?_eq_some_iff, h]
    simp only [Option.some.injEq, exists_eq_left']
  rw [invalidPref_mem_iff, and_iff_right (mem_get_of_first? h), IsRank]
  simp only [hnumber, not_exists, not_and]

end Parameters

/-! ## Ranked properties -/

namespace Property

variable {V W : Type} {p : Property V} {q : Property W} {k : Int}

/-- A property that the order puts among the ranked ones. -/
def IsRanked (p : Property V) : Prop := p.preference.unranked = false

instance (p : Property V) : Decidable (IsRanked p) :=
  inferInstanceAs (Decidable (p.preference.unranked = false))

/-- A property whose first rank passes validation. -/
def HasValidPref (p : Property V) : Prop :=
  ∃ v, p.parameters.first? "PREF" = some v ∧
    Parameters.invalidPref v ∉ p.parameters.validate .v4_0

/-- A property whose first rank is found wanting. -/
def HasInvalidPref (p : Property V) : Prop :=
  ∃ v, p.parameters.first? "PREF" = some v ∧
    Parameters.invalidPref v ∈ p.parameters.validate .v4_0

/-- A property whose first rank stands for a number out of range. -/
def HasStrayPref (p : Property V) (k : Int) : Prop :=
  ∃ v, p.parameters.first? "PREF" = some v ∧ Decimal.Numeral v.toList k ∧ ¬ (1 ≤ k ∧ k ≤ 100)

theorem preference_of_pref? (h : p.parameters.pref? = some k) : p.preference = ⟨false, k⟩ := by
  rw [preference, Preference.ofParameters, h]

theorem preference_of_no_pref? (h : p.parameters.pref? = none) : p.preference = ⟨true, 0⟩ := by
  rw [preference, Preference.ofParameters, h]

theorem isRanked_iff : IsRanked p ↔ ∃ k, p.parameters.pref? = some k := by
  rw [IsRanked]
  cases h : p.parameters.pref? with
  | none => simp [preference_of_no_pref? h]
  | some k => simp [preference_of_pref? h]

theorem hasStrayPref_iff :
    HasStrayPref p k ↔ p.parameters.pref? = some k ∧ ¬ (1 ≤ k ∧ k ≤ 100) := by
  simp only [HasStrayPref, Parameters.pref?_eq_some_iff, ← exists_and_right, and_assoc]

theorem hasValidPref_iff :
    HasValidPref p ↔ ∃ k, p.parameters.pref? = some k ∧ 1 ≤ k ∧ k ≤ 100 := by
  constructor
  · rintro ⟨v, hv, hpasses⟩
    by_contra hnone
    refine hpasses ((Parameters.invalidPref_mem_iff_of_first? hv).2 fun k hk hrange => ?_)
    exact hnone ⟨k, hk, hrange⟩
  · rintro ⟨k, hk, hrange⟩
    obtain ⟨v, hv, -⟩ := Parameters.pref?_eq_some_iff.1 hk
    refine ⟨v, hv, fun hreported => ?_⟩
    exact (Parameters.invalidPref_mem_iff_of_first? hv).1 hreported k hk hrange

theorem HasInvalidPref.out_of_range (h : HasInvalidPref p) (hk : p.parameters.pref? = some k) :
    ¬ (1 ≤ k ∧ k ≤ 100) := by
  obtain ⟨v, hv, hreported⟩ := h
  exact (Parameters.invalidPref_mem_iff_of_first? hv).1 hreported k hk

/-- In the range, the key of the order is what validation lets pass. -/
theorem hasValidPref_iff_rank : HasValidPref p ↔
    IsRanked p ∧ 1 ≤ p.preference.rank ∧ p.preference.rank ≤ 100 := by
  rw [hasValidPref_iff, isRanked_iff]
  cases h : p.parameters.pref? with
  | none => simp
  | some k => simp [preference_of_pref? h]

/-- What validation finds wanting comes before what it lets pass only as a stray rank, of zero or
less. -/
theorem before_iff_stray (hp : HasInvalidPref p) (hq : HasValidPref q) :
    p.preference.before q.preference = true ↔ ∃ k ≤ 0, HasStrayPref p k := by
  obtain ⟨m, hm, hrange⟩ := hasValidPref_iff.1 hq
  simp only [preference_of_pref? hm, hasStrayPref_iff]
  cases h : p.parameters.pref? with
  | none => simp [preference_of_no_pref? h, Preference.not_before_of_unranked]
  | some k =>
    -- Out of range is above every valid rank, so behind it, or below every valid rank.
    have hout := hp.out_of_range h
    rw [preference_of_pref? h, Preference.before_ranked_iff]
    constructor
    · intro hlt
      exact ⟨k, by omega, rfl, hout⟩
    · rintro ⟨j, hj, hjk, -⟩
      cases hjk
      omega

/-- **Ranked is valid, stray ranks aside.** A property is ranked exactly if its first rank passes
validation or is stray, so the order and validation agree on it exactly if the rank is not stray.
The keys of the properties whose first rank passes are those from 1 to 100; and of two properties
the one found wanting comes before the valid one exactly if it has a stray rank of zero or less. -/
theorem isRanked_iff_valid_or_stray (p : Property V) (q : Property W) :
    (IsRanked p ↔ HasValidPref p ∨ ∃ k, HasStrayPref p k) ∧
    ((IsRanked p ↔ HasValidPref p) ↔ ¬ ∃ k, HasStrayPref p k) ∧
    (HasValidPref p ↔ IsRanked p ∧ 1 ≤ p.preference.rank ∧ p.preference.rank ≤ 100) ∧
    (HasInvalidPref p → HasValidPref q →
      (p.preference.before q.preference = true ↔ ∃ k ≤ 0, HasStrayPref p k)) := by
  have hranked : IsRanked p ↔ HasValidPref p ∨ ∃ k, HasStrayPref p k := by
    simp only [isRanked_iff, hasValidPref_iff, hasStrayPref_iff, ← exists_or, ← and_or_left]
    exact exists_congr fun k => (and_iff_left (em _)).symm
  have hapart : HasValidPref p → ¬ ∃ k, HasStrayPref p k := by
    simp only [hasValidPref_iff, hasStrayPref_iff]
    rintro ⟨j, hj, hrange⟩ ⟨k, hk, hout⟩
    rw [hj, Option.some.injEq] at hk
    exact hout (hk ▸ hrange)
  refine ⟨hranked, ⟨fun hagree hstray => ?_, fun hnone => ?_⟩, hasValidPref_iff_rank,
    before_iff_stray⟩
  · exact hapart (hagree.1 (hranked.2 (Or.inr hstray))) hstray
  · rw [hranked, or_iff_left hnone]

/-- A note whose rank is a word does not come before a ranked one. -/
theorem isRanked_iff_valid_or_stray_word :
    let p : Property TextValue :=
      ⟨"NOTE", none, Parameters.ofList [("PREF", "high"), ("PREF", "1")], ⟨none⟩⟩
    let q : Property TextValue := ⟨"NOTE", none, Parameters.ofList [("PREF", "100")], ⟨none⟩⟩
    HasInvalidPref p ∧ HasValidPref q ∧ p.preference.before q.preference = false := by
  intro p q
  have hp : HasInvalidPref p := ⟨"high", by decide +kernel, by decide +kernel⟩
  have hq : HasValidPref q := ⟨"100", by decide +kernel, by decide +kernel⟩
  obtain ⟨-, -, -, hbefore⟩ := isRanked_iff_valid_or_stray p q
  have hword : p.parameters.pref? = none := by decide +kernel
  refine ⟨hp, hq, Bool.eq_false_iff.2 fun h => ?_⟩
  obtain ⟨k, -, hk⟩ := (hbefore hp hq).1 h
  rw [hasStrayPref_iff, hword] at hk
  exact absurd hk.1 (Option.some_ne_none k).symm

/-- A note of rank zero is found wanting, is ranked all the same and comes before one of rank
one. -/
theorem ranks_stray_first :
    let p : Property TextValue := ⟨"NOTE", none, Parameters.ofList [("PREF", "0")], ⟨none⟩⟩
    let q : Property TextValue := ⟨"NOTE", none, Parameters.ofList [("PREF", "1")], ⟨none⟩⟩
    p.parameters.first? "PREF" = some "0" ∧
      Parameters.invalidPref "0" ∈ p.parameters.validate .v4_0 ∧ IsRanked p ∧
      p.preference.rank = 0 ∧ q.parameters.first? "PREF" = some "1" ∧
      Parameters.invalidPref "1" ∉ q.parameters.validate .v4_0 ∧
      p.preference.before q.preference = true := by
  refine ⟨?_, ?_, ?_, ?_, ?_, ?_, ?_⟩ <;> decide +kernel

end Property

end VCardKit
