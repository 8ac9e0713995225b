/-
  Upper case is final: putting a text into upper case a second time changes nothing. Names are
  stored in upper case and looked up through their upper case, so a stored name finds itself. The
  fact is read off the tables: no code point that they map to is one that they map. Both sets are
  taken as the bits of one number, so that the kernel compares them at once.
-/
import VCardKit.Text.Case
import Mathlib.Data.Nat.Bitwise

namespace VCardKit.Text

/-! ## Sets of numbers as bits -/

/-- The number whose bits stand at the given places. -/
def bits (ns : List Nat) : Nat := ns.foldr (fun n b => 2 ^ n ||| b) 0

theorem testBit_bits (ns : List Nat) (n : Nat) : (bits ns).testBit n = decide (n ∈ ns) := by
  induction ns with
  | nil => simp [bits]
  | cons m ns ih =>
    have hc : bits (m :: ns) = 2 ^ m ||| bits ns := rfl
    rw [hc, Nat.testBit_or, Nat.testBit_two_pow, ih, ← Bool.decide_or]
    simp [eq_comm]

theorem not_mem_of_bits {ms ns : List Nat} (h : bits ms &&& bits ns = 0) {n : Nat}
    (hn : n ∈ ns) : n ∉ ms := by
  intro hm
  have hb : (bits ms &&& bits ns).testBit n = true := by
    rw [Nat.testBit_and, testBit_bits, testBit_bits, decide_eq_true hm, decide_eq_true hn]
    rfl
  rw [h, Nat.zero_testBit] at hb
  cases hb

/-! ## The tables -/

/-- The code points that a run maps. -/
def CaseRun.sources (r : CaseRun) : List Nat :=
  ((List.range (r.last + 1 - r.first)).map (r.first + ·)).filter fun n => (r.image? n).isSome

/-- The code points that a run maps to. -/
def CaseRun.images (r : CaseRun) : List Nat := r.sources.filterMap r.image?

theorem CaseRun.mem_sources {r : CaseRun} {m n : Nat} (h : r.image? m = some n) :
    m ∈ r.sources := by
  have hb : r.first ≤ m ∧ m ≤ r.last := by
    unfold CaseRun.image? at h
    split at h
    · next hc =>
      simp only [Bool.and_eq_true, decide_eq_true_eq] at hc
      exact hc.1
    · cases h
  refine List.mem_filter.mpr ⟨List.mem_map.mpr ⟨m - r.first, ?_, by omega⟩, by rw [h]; rfl⟩
  exact List.mem_range.mpr (by omega)

theorem CaseRun.mem_images {r : CaseRun} {m n : Nat} (h : r.image? m = some n) : n ∈ r.images :=
  List.mem_filterMap.mpr ⟨m, mem_sources h, h⟩

/-- The code points that have another upper case than themselves, `a` to `z` first. -/
def upperSources : List Nat :=
  List.range' 0x61 26 ++ upperRuns.flatMap CaseRun.sources ++ upperExpansions.map (·.1)

/-- The code points beyond those of ASCII letters that are the upper case of others. -/
def upperImages : List Nat :=
  upperRuns.flatMap CaseRun.images ++ upperExpansions.flatMap (·.2)

theorem disjoint_sources_images : bits upperSources &&& bits upperImages = 0 := by
  decide +kernel

/-! ## One character -/

/-- A character that is its own upper case. -/
def IsUpper (c : Char) : Prop := upperChar c = [c]

instance (c : Char) : Decidable (IsUpper c) := inferInstanceAs (Decidable (upperChar c = [c]))

theorem isUpper_toUpper_ascii : ∀ n < 128, IsUpper (Char.ofNat n).toUpper := by decide +kernel

theorem isUpper_ascii : ∀ n < 128, n ∉ List.range' 0x61 26 → IsUpper (Char.ofNat n) := by
  decide +kernel

theorem isUpper_of_not_mem_sources {c : Char} (h : c.toNat ∉ upperSources) : IsUpper c := by
  simp only [upperSources, List.mem_append, not_or] at h
  obtain ⟨⟨hascii, hruns⟩, hexp⟩ := h
  by_cases hc : c.toNat < 128
  · have := isUpper_ascii c.toNat hc hascii
    rwa [Char.ofNat_toNat] at this
  · have he : upperExpansions.lookup c.toNat = none := by
      rw [List.lookup_eq_none_iff]
      intro e he
      rw [bne_iff_ne]
      rintro heq
      exact hexp (List.mem_map.mpr ⟨e, he, heq.symm⟩)
    have hr : upperRuns.findSome? (·.image? c.toNat) = none := by
      rw [List.findSome?_eq_none_iff]
      intro r hr
      cases hi : r.image? c.toNat with
      | none => rfl
      | some n => exact absurd (List.mem_flatMap.mpr ⟨r, hr, CaseRun.mem_sources hi⟩) hruns
    rw [IsUpper, upperChar, if_neg hc, mapCase, he]
    dsimp only
    rw [hr]

theorem isUpper_of_mem_images {n : Nat} (h : n ∈ upperImages) : IsUpper (Char.ofNat n) := by
  by_cases hv : n.isValidChar
  · have hn : (Char.ofNat n).toNat = n := by
      rw [Char.ofNat, dif_pos hv]
      rfl
    refine isUpper_of_not_mem_sources ?_
    rw [hn]
    exact not_mem_of_bits disjoint_sources_images h
  · have hz : Char.ofNat n = '\x00' := by rw [Char.ofNat, dif_neg hv]; rfl
    rw [hz]
    decide

theorem isUpper_of_mem_upperChar {c d : Char} (h : d ∈ upperChar c) : IsUpper d := by
  unfold upperChar at h
  split at h
  · next hc =>
    rw [List.mem_singleton] at h
    have := isUpper_toUpper_ascii c.toNat hc
    rwa [Char.ofNat_toNat, ← h] at this
  · next hc =>
    unfold mapCase at h
    split at h
    · next ns hn =>
      obtain ⟨l, r, hl, -⟩ := List.lookup_eq_some_iff.mp hn
      obtain ⟨n, hm, rfl⟩ := List.mem_map.mp h
      refine isUpper_of_mem_images (List.mem_append_right _ (List.mem_flatMap.mpr ?_))
      exact ⟨(c.toNat, ns), by rw [hl]; simp, hm⟩
    · next hn =>
      split at h
      · next n hr =>
        obtain ⟨r, hr, hi⟩ := List.exists_of_findSome?_eq_some hr
        rw [List.mem_singleton.mp h]
        refine isUpper_of_mem_images (List.mem_append_left _ (List.mem_flatMap.mpr ?_))
        exact ⟨r, hr, CaseRun.mem_images hi⟩
      · next hr =>
        rw [List.mem_singleton] at h
        rw [h, IsUpper, upperChar, if_neg hc, mapCase, hn]
        dsimp only
        rw [hr]

/-! ## Texts -/

theorem flatMap_upperChar_of_isUpper {cs : List Char} (h : ∀ c ∈ cs, IsUpper c) :
    cs.flatMap upperChar = cs := by
  induction cs with
  | nil => rfl
  | cons c cs ih =>
    rw [List.flatMap_cons, h c List.mem_cons_self,
      ih fun d hd => h d (List.mem_cons_of_mem _ hd)]
    rfl

/-- Upper case is final. -/
theorem upper_upper (s : String) : upper (upper s) = upper s := by
  rw [upper, upper, String.toList_ofList, flatMap_upperChar_of_isUpper]
  intro d hd
  obtain ⟨c, -, hc⟩ := List.mem_flatMap.mp hd
  exact isUpper_of_mem_upperChar hc

end VCardKit.Text
