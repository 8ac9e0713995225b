/-
  The order of preference and the choice of the most preferred property. Preferences compare first
  by being unranked and then by rank, so they compare as the ranks do with one more rank behind all
  others (`compare_eq_cmp_place`); that is a total preorder, and the comparisons read its sign. The
  choice takes the first of the most preferred. It is what a stable sort by strict preference puts
  first (`head?_sort`), and the only member that no member is preferred to and that is preferred to
  every member in front of it (`best?_eq_some_iff`).
-/
import VCardKit.Store.Property
import VCardKit.Proofs.Property.Rank
import Mathlib

namespace VCardKit

namespace Preference

variable {a b c : Preference}

/-! ## A total preorder -/

instance : Std.TransCmp compare :=
  inferInstanceAs (Std.TransCmp (compareLex (compareOn unranked) (compareOn rank)))

theorem before_iff : before a b = true ↔ compare a b = .lt := beq_iff_eq

theorem not_before_self (a : Preference) : before a a = false := by
  have hself : compare a a = .eq := Std.ReflCmp.compare_self
  rw [before, hself]
  rfl

theorem not_before_of_before (h : before a b = true) : before b a = false := by
  have hlt := before_iff.1 h
  have hgt : compare b a = .gt := Std.OrientedCmp.gt_iff_lt.2 hlt
  rw [before, hgt]
  rfl

theorem not_before_iff : before a b = false ↔ (compare b a).isLE = true := by
  have hswap : compare a b = (compare b a).swap := Std.OrientedCmp.eq_swap
  rw [before, hswap]
  cases compare b a <;> decide

theorem not_before_trans (h : before a b = false) (h' : before b c = false) :
    before a c = false :=
  not_before_iff.2 (Std.TransCmp.isLE_trans (not_before_iff.1 h') (not_before_iff.1 h))

/-! ## The first of the most preferred -/

section

variable {α : Type} {preference : α → Preference} {x y : α} {xs : List α}

/-- A member that no member is preferred to, and that is preferred to every member in front. -/
def IsFirstBest (preference : α → Preference) (xs : List α) (x : α) : Prop :=
  (∃ front back, xs = front ++ x :: back ∧
    ∀ y ∈ front, before (preference x) (preference y) = true) ∧
  ∀ y ∈ xs, before (preference y) (preference x) = false

theorem best?_eq_none_iff : best? preference xs = none ↔ xs = [] := by
  cases xs with
  | nil => simp [best?]
  | cons x xs =>
    have hsome : best? preference (x :: xs) ≠ none := by
      rw [best?]
      cases best? preference xs with
      | none => exact Option.some_ne_none x
      | some y =>
        show (if before (preference y) (preference x) = true then some y else some x) ≠ none
        split
        · exact Option.some_ne_none y
        · exact Option.some_ne_none x
    simp [hsome]

theorem not_isFirstBest_nil (x : α) : ¬ IsFirstBest preference [] x := by
  rintro ⟨⟨front, back, hsplit, -⟩, -⟩
  cases front <;> cases hsplit

/-- With one more member in front, that one is the first best, or it is passed over. -/
theorem isFirstBest_cons_iff : IsFirstBest preference (y :: xs) x ↔
    (x = y ∧ ∀ z ∈ xs, before (preference z) (preference y) = false) ∨
      (before (preference x) (preference y) = true ∧ IsFirstBest preference xs x) := by
  constructor
  · rintro ⟨⟨front, back, hsplit, hfront⟩, hbest⟩
    have hrest := (List.forall_mem_cons.1 hbest).2
    cases front with
    | nil =>
      obtain ⟨rfl, rfl⟩ := List.cons.inj hsplit
      exact Or.inl ⟨rfl, hrest⟩
    | cons z front =>
      obtain ⟨rfl, hxs⟩ := List.cons.inj hsplit
      obtain ⟨hpassed, hfront⟩ := List.forall_mem_cons.1 hfront
      exact Or.inr ⟨hpassed, ⟨front, back, hxs, hfront⟩, hrest⟩
  · rintro (⟨rfl, hrest⟩ | ⟨hpassed, ⟨front, back, rfl, hfront⟩, hbest⟩)
    · have hnone : ∀ z ∈ ([] : List α), before (preference x) (preference z) = true := by
        intro z hz
        cases hz
      exact ⟨⟨[], xs, rfl, hnone⟩, List.forall_mem_cons.2 ⟨not_before_self _, hrest⟩⟩
    · exact ⟨⟨y :: front, back, rfl, List.forall_mem_cons.2 ⟨hpassed, hfront⟩⟩,
        List.forall_mem_cons.2 ⟨not_before_of_before hpassed, hbest⟩⟩

/-- The choice is the first best member, and no other member is. -/
theorem best?_eq_some_iff : best? preference xs = some x ↔ IsFirstBest preference xs x := by
  induction xs generalizing x with
  | nil => simp [best?, not_isFirstBest_nil]
  | cons y xs ih =>
    rw [isFirstBest_cons_iff, best?]
    cases hrest : best? preference xs with
    | none =>
      obtain rfl := best?_eq_none_iff.1 hrest
      show some y = some x ↔ _
      rw [Option.some.injEq]
      constructor
      · rintro rfl
        exact Or.inl ⟨rfl, by simp⟩
      · rintro (⟨rfl, -⟩ | ⟨-, hx⟩)
        · rfl
        · exact absurd hx (not_isFirstBest_nil x)
    | some z =>
      have hz : IsFirstBest preference xs z := ih.1 hrest
      have honly : ∀ {x}, IsFirstBest preference xs x ↔ z = x := by
        intro x
        rw [← ih, hrest, Option.some.injEq]
      obtain ⟨⟨front, back, hsplit, -⟩, hbest⟩ := hz
      have hmem : z ∈ xs := by
        rw [hsplit]
        exact List.mem_append_right _ List.mem_cons_self
      show (if before (preference z) (preference y) = true then some z else some y) = some x ↔ _
      cases hpassed : before (preference z) (preference y) with
      | true =>
        -- The member in front is no best one, since the best of the others is preferred to it.
        have hfirst : ¬ ∀ w ∈ xs, before (preference w) (preference y) = false := by
          intro hnone
          exact absurd ((hnone z hmem).symm.trans hpassed) Bool.false_ne_true
        rw [if_pos rfl, Option.some.injEq, honly]
        constructor
        · rintro rfl
          exact Or.inr ⟨hpassed, rfl⟩
        · rintro (⟨-, hnone⟩ | ⟨-, hx⟩)
          · exact absurd hnone hfirst
          · exact hx
      | false =>
        -- Nothing is preferred to the best of the others, so nothing to the member in front.
        have hfirst : ∀ w ∈ xs, before (preference w) (preference y) = false := by
          intro w hw
          exact not_before_trans (hbest w hw) hpassed
        rw [if_neg Bool.false_ne_true, Option.some.injEq, honly]
        constructor
        · rintro rfl
          exact Or.inl ⟨rfl, hfirst⟩
        · rintro (⟨rfl, -⟩ | ⟨hx, rfl⟩)
          · rfl
          · exact absurd (hpassed.symm.trans hx) Bool.false_ne_true

/-! ## What a stable sort puts first -/

/-- The comparison that the sort uses: the second is not preferred to the first. -/
def inOrder (preference : α → Preference) (x y : α) : Bool :=
  !before (preference y) (preference x)

theorem inOrder_iff : inOrder preference x y = true ↔
    before (preference y) (preference x) = false := by
  rw [inOrder, Bool.not_eq_true']

theorem inOrder_trans (x y z : α) (h : inOrder preference x y = true)
    (h' : inOrder preference y z = true) : inOrder preference x z = true :=
  inOrder_iff.2 (not_before_trans (inOrder_iff.1 h') (inOrder_iff.1 h))

theorem inOrder_total (x y : α) :
    (inOrder preference x y || inOrder preference y x) = true := by
  cases h : before (preference y) (preference x) with
  | false => simp [inOrder, h]
  | true => simp [inOrder, h, not_before_of_before h]

/-- Members that are equally preferred as one of them. -/
def isTied (preference : α → Preference) (x y : α) : Bool :=
  inOrder preference x y && inOrder preference y x

/-- Equally preferred members keep their order. -/
theorem filter_isTied_sort (preference : α → Preference) (xs : List α) (x : α) :
    (sort preference xs).filter (isTied preference x) = xs.filter (isTied preference x) := by
  have htied : (xs.filter (isTied preference x)).Pairwise fun y z =>
      inOrder preference y z = true := by
    apply List.pairwise_of_forall_mem_list
    intro y hy z hz
    have hy' := (Bool.and_eq_true_iff.1 (List.mem_filter.1 hy).2).2
    have hz' := (Bool.and_eq_true_iff.1 (List.mem_filter.1 hz).2).1
    exact inOrder_trans y x z hy' hz'
  have hsub : (xs.filter (isTied preference x)).Sublist (sort preference xs) :=
    List.sublist_mergeSort inOrder_trans inOrder_total htied List.filter_sublist
  have hself := hsub.filter (isTied preference x)
  rw [List.filter_filter] at hself
  simp only [Bool.and_self] at hself
  have hperm : (sort preference xs).Perm xs := List.mergeSort_perm xs _
  exact (hself.eq_of_length (hperm.filter _).length_eq.symm).symm

/-- The choice is what the sort puts first. -/
theorem head?_sort (preference : α → Preference) (xs : List α) :
    (sort preference xs).head? = best? preference xs := by
  have hperm : (sort preference xs).Perm xs := List.mergeSort_perm xs _
  cases hsorted : sort preference xs with
  | nil =>
    rw [hsorted] at hperm
    rw [List.nil_perm.1 hperm]
    rfl
  | cons x rest =>
    have hordered : (x :: rest).Pairwise fun y z => inOrder preference y z = true := by
      rw [← hsorted]
      exact List.pairwise_mergeSort inOrder_trans inOrder_total xs
    rw [hsorted] at hperm
    have hbest : ∀ y ∈ xs, before (preference y) (preference x) = false := by
      intro y hy
      rcases List.mem_cons.1 (hperm.mem_iff.2 hy) with rfl | hrest
      · exact not_before_self _
      · exact inOrder_iff.1 (List.rel_of_pairwise_cons hordered hrest)
    -- The members tied with the first one keep their order, so it is the first of them.
    have hself : isTied preference x x = true := by
      simp [isTied, inOrder, not_before_self]
    have htied := congrArg List.head? (filter_isTied_sort preference xs x)
    rw [hsorted, List.filter_cons_of_pos hself, List.head?_cons, List.head?_filter] at htied
    obtain ⟨-, front, back, hsplit, hfront⟩ := List.find?_eq_some_iff_append.1 htied.symm
    refine (best?_eq_some_iff.2 ⟨⟨front, back, hsplit, ?_⟩, hbest⟩).symm
    intro y hy
    have hnot := hfront y hy
    have hy' : y ∈ xs := by
      rw [hsplit]
      exact List.mem_append_left _ hy
    simpa [isTied, inOrder, hbest y hy'] using hnot

end

end Preference

namespace Property

variable {U V : Type}

/-- The rank of a property; a missing one stands behind all ranks. -/
def place (p : Property V) : WithTop Int :=
  match p.parameters.pref? with
  | some rank => rank
  | none => ⊤

/-- Properties compare as their ranks do. -/
theorem compare_eq_cmp_place (p : Property U) (q : Property V) :
    p.preference.compare q.preference = cmp p.place q.place := by
  unfold place
  cases hp : p.parameters.pref? with
  | none =>
    rw [preference_of_no_pref? hp]
    cases hq : q.parameters.pref? with
    | none =>
      rw [preference_of_no_pref? hq]
      exact (cmp_self_eq_eq (⊤ : WithTop Int)).symm
    | some k =>
      rw [preference_of_pref? hq]
      exact ((cmp_eq_gt_iff _ _).2 (WithTop.coe_lt_top k)).symm
  | some j =>
    rw [preference_of_pref? hp]
    cases hq : q.parameters.pref? with
    | none =>
      rw [preference_of_no_pref? hq]
      exact ((cmp_eq_lt_iff _ _).2 (WithTop.coe_lt_top j)).symm
    | some k =>
      rw [preference_of_pref? hq]
      have hranks : Preference.compare ⟨false, j⟩ ⟨false, k⟩ = Ord.compare j k := rfl
      have hcmp : cmp (j : WithTop Int) (k : WithTop Int) = cmp j k := by
        simp only [cmp, cmpUsing, WithTop.coe_lt_coe]
      rw [hranks, hcmp]
      exact (cmp_eq_compare j k).symm

/-- How the comparisons of properties hang together. They compare as their ranks do; the order of
two is turned around with them and goes over from two pairs to the third; and each of the four
comparisons reads its sign. -/
structure ComparesByRank (a b c : AnyProperty) : Prop where
  by_place : a.preference.compare b.preference = cmp a.place b.place
  swap : b.preference.compare a.preference = (a.preference.compare b.preference).swap
  trans : a.preference.compare b.preference ≠ .gt → b.preference.compare c.preference ≠ .gt →
    a.preference.compare c.preference ≠ .gt
  trans_left : a.preference.compare b.preference = .lt →
    b.preference.compare c.preference ≠ .gt → a.preference.compare c.preference = .lt
  trans_right : a.preference.compare b.preference ≠ .gt →
    b.preference.compare c.preference = .lt → a.preference.compare c.preference = .lt
  less : a.preference.holds .less b.preference = true ↔
    a.preference.compare b.preference = .lt
  lessOrEqual : a.preference.holds .lessOrEqual b.preference = true ↔
    a.preference.compare b.preference ≠ .gt
  greater : a.preference.holds .greater b.preference = true ↔
    a.preference.compare b.preference = .gt
  greaterOrEqual : a.preference.holds .greaterOrEqual b.preference = true ↔
    a.preference.compare b.preference ≠ .lt
  either : a.preference.holds .greaterOrEqual b.preference =
    !a.preference.holds .less b.preference

theorem comparesByRank (a b c : AnyProperty) : ComparesByRank a b c where
  by_place := compare_eq_cmp_place a b
  swap := Std.OrientedCmp.eq_swap
  trans h h' := by
    have hle := Ordering.isLE_iff_ne_gt.2 h
    have hle' := Ordering.isLE_iff_ne_gt.2 h'
    exact Ordering.isLE_iff_ne_gt.1 (Std.TransCmp.isLE_trans hle hle')
  trans_left h h' := Std.TransCmp.lt_of_lt_of_isLE h (Ordering.isLE_iff_ne_gt.2 h')
  trans_right h h' := Std.TransCmp.lt_of_isLE_of_lt (Ordering.isLE_iff_ne_gt.2 h) h'
  less := Ordering.isLT_iff_eq_lt
  lessOrEqual := Ordering.isLE_iff_ne_gt
  greater := Ordering.isGT_iff_eq_gt
  greaterOrEqual := Ordering.isGE_iff_ne_lt
  either := by
    unfold Preference.holds Comparison.accepts
    cases a.preference.compare b.preference <;> rfl

end Property

namespace Store

open Preference (IsFirstBest)

/-- **The order is a total preorder, and the choice is its first minimum.** Properties compare as
their ranks do, the missing rank being the last. Of the properties of a kind in a card, one is
chosen unless there is none: the one that no other is preferred to and that is preferred to all that
stand in front of it in the card. It is what sorting them puts first. -/
theorem preferredOf?_eq_some_iff_isFirstBest (s : Store) (card : CardId) (kind : Kind) :
    (∀ a b c : AnyProperty, Property.ComparesByRank a b c) ∧
    (s.preferredOf? card kind = none ↔ s.propertiesOf card kind = []) ∧
    (∀ id, s.preferredOf? card kind = some id ↔
      IsFirstBest s.preference (s.propertiesOf card kind) id) ∧
    (Preference.sort s.preference (s.propertiesOf card kind)).head? = s.preferredOf? card kind := by
  refine ⟨Property.comparesByRank, Preference.best?_eq_none_iff, ?_, ?_⟩
  · intro id
    exact Preference.best?_eq_some_iff
  · exact Preference.head?_sort s.preference (s.propertiesOf card kind)

end Store

end VCardKit
