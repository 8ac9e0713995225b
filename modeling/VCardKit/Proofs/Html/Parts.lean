/-
  The parts of a value. An element inside another one is outermost for a class if it carries the
  class and, on the way up to the other element, nothing else does (`Forest.IsOutermost`); what the
  two elements are themselves inside of has no say. The walk that descends into a tree and stops at
  each element of the class finds the outermost ones (`Forest.map_at?_outermostInside`). So every
  element with the class `value` is counted once, as a part or inside of just one part.
-/
import VCardKit.Proofs.Html.Element
import VCardKit.Proofs.Html.Position
import Mathlib.Data.List.Infix
import Mathlib.Logic.ExistsUnique

namespace VCardKit.Html

open Position

namespace Position

variable {p q r : Position} {P : Position → Prop}

/-! ## What lies in between -/

theorem not_inside_single (h : Inside [] r) : ¬ Inside r [0] := by
  obtain ⟨i, r, rfl⟩ := List.exists_cons_of_ne_nil (nil_inside.1 h)
  simp

theorem forall_between_zero_cons (h : q ≠ []) :
    (∀ r, Inside [] r → Inside r (0 :: q) → P r) ↔
      P [0] ∧ ∀ r, Inside [] r → Inside r q → P (0 :: r) := by
  constructor
  · intro hall
    exact ⟨hall [0] (by simp) (by simpa using h), fun r _ hr => hall (0 :: r) (by simp) (by simpa)⟩
  · rintro ⟨hzero, hall⟩ r hr hrq
    match r with
    | [] => exact absurd hr not_inside_nil
    | [i] =>
      obtain ⟨rfl, -⟩ := cons_inside_cons.1 hrq
      exact hzero
    | i :: j :: r =>
      obtain ⟨rfl, hinner⟩ := cons_inside_cons.1 hrq
      exact hall (j :: r) (by simp) hinner

theorem forall_between_next :
    (∀ r, Inside [] r → Inside r (next q) → P r) ↔
      ∀ r, Inside [] r → Inside r q → P (next r) := by
  constructor
  · intro hall r hr hrq
    obtain ⟨i, r, rfl⟩ := List.exists_cons_of_ne_nil (nil_inside.1 hr)
    exact hall (next (i :: r)) (by simp) (by simpa using hrq)
  · intro hall r hr hrq
    match r with
    | [] => exact absurd hr not_inside_nil
    | 0 :: r => exact absurd hrq not_zero_cons_inside_next
    | (i + 1) :: r => exact hall (i :: r) (by simp) (succ_cons_inside_next.1 hrq)

end Position

namespace Forest

/-! ## Outermost elements -/

/-- Whether the element at a position carries a class. -/
def carries (f : Forest) (name : String) (q : Position) : Bool :=
  (f.at? q).any (·.hasClass name)

/-- What is at `q` lies inside `p` and carries the class, and nothing in between carries it. -/
def IsOutermost (f : Forest) (name : String) (p q : Position) : Prop :=
  Inside p q ∧ f.carries name q = true ∧
    ∀ r, Inside p r → Inside r q → f.carries name r = false

instance (f : Forest) (name : String) (p q : Position) : Decidable (f.IsOutermost name p q) :=
  decidable_of_iff
    (Inside p q ∧ f.carries name q = true ∧
      ∀ r ∈ q.inits, Inside p r → Inside r q → f.carries name r = false)
    (by
      simp only [IsOutermost, List.mem_inits]
      exact and_congr_right fun _ => and_congr_right fun _ =>
        ⟨fun h r hp hq => h r hq.1 hp hq, fun h r _ hp hq => h r hp hq⟩)

/-- The positions of the outermost elements of a class inside `p`, in document order. -/
def outermostInside (f : Forest) (name : String) (p : Position) : List Position :=
  f.positions.filter (f.IsOutermost name p)

section

variable {f : Forest} {name : String} {p q : Position} {e : Element}
variable {tag text tail : String} {attributes : Attributes} {children rest : Forest}

theorem carries_append (h : f.at? p = some e) (hq : q ≠ []) :
    f.carries name (p ++ q) = e.children.carries name q := by
  rw [carries, carries, at?_append h hq]

theorem isOutermost_append (h : f.at? p = some e) :
    f.IsOutermost name p (p ++ q) ↔ e.children.IsOutermost name [] q := by
  have hpos : Inside p (p ++ q) ↔ Inside [] q := by simp [Inside]
  rw [IsOutermost, IsOutermost, hpos]
  refine and_congr_right fun hq => and_congr ?_ ?_
  · rw [carries_append h (nil_inside.1 hq)]
  · -- Whatever lies between `p` and `p ++ q` has `p` in front.
    constructor
    · intro hbetween r hr hrq
      rw [← carries_append h (nil_inside.1 hr)]
      exact hbetween (p ++ r) (inside_iff_append.2 ⟨r, nil_inside.1 hr, rfl⟩)
        (append_inside_append.2 hrq)
    · intro hbetween r hr hrq
      obtain ⟨s, hs, rfl⟩ := inside_iff_append.1 hr
      rw [carries_append h hs]
      exact hbetween s (nil_inside.2 hs) (append_inside_append.1 hrq)

theorem carries_element_zero :
    (element tag attributes text children tail rest).carries name [0] =
      Element.hasClass { tag, attributes } name := rfl

theorem carries_element_zero_cons (h : q ≠ []) :
    (element tag attributes text children tail rest).carries name (0 :: q) =
      children.carries name q := by
  rw [carries, carries, at?_element_zero_cons h]

theorem carries_element_next :
    (element tag attributes text children tail rest).carries name (next q) =
      rest.carries name q := by
  rw [carries, carries, at?_element_next]

theorem carries_comment_next :
    (comment text tail rest).carries name (next q) = rest.carries name q := by
  rw [carries, carries, at?_comment_next]

theorem isOutermost_element_zero :
    (element tag attributes text children tail rest).IsOutermost name [] [0] ↔
      Element.hasClass { tag, attributes } name = true := by
  rw [IsOutermost, carries_element_zero]
  constructor
  · exact fun h => h.2.1
  · exact fun h => ⟨by simp, h, fun r hr hzero => absurd hzero (not_inside_single hr)⟩

theorem isOutermost_element_zero_cons (h : q ≠ []) :
    (element tag attributes text children tail rest).IsOutermost name [] (0 :: q) ↔
      Element.hasClass { tag, attributes } name = false ∧ children.IsOutermost name [] q := by
  have hbetween : (∀ r, Inside [] r → Inside r q →
      (element tag attributes text children tail rest).carries name (0 :: r) = false) ↔
      ∀ r, Inside [] r → Inside r q → children.carries name r = false := by
    refine forall_congr' fun r => forall_congr' fun hr => ?_
    rw [carries_element_zero_cons (nil_inside.1 hr)]
  rw [IsOutermost, IsOutermost, forall_between_zero_cons h, hbetween, carries_element_zero,
    carries_element_zero_cons h]
  simp [h]
  tauto

theorem isOutermost_element_next :
    (element tag attributes text children tail rest).IsOutermost name [] (next q) ↔
      rest.IsOutermost name [] q := by
  rw [IsOutermost, IsOutermost, forall_between_next]
  simp only [carries_element_next, nil_inside, ne_eq, next_eq_nil]

theorem isOutermost_comment_next :
    (comment text tail rest).IsOutermost name [] (next q) ↔ rest.IsOutermost name [] q := by
  rw [IsOutermost, IsOutermost, forall_between_next]
  simp only [carries_comment_next, nil_inside, ne_eq, next_eq_nil]

theorem filter_isOutermost_next :
    (rest.positions.map next).filter
        ((element tag attributes text children tail rest).IsOutermost name []) =
      (rest.outermostInside name []).map next := by
  simp only [List.filter_map, Function.comp_def, isOutermost_element_next, outermostInside]

theorem outermostInside_element_of_class (h : Element.hasClass { tag, attributes } name = true) :
    (element tag attributes text children tail rest).outermostInside name [] =
      [0] :: (rest.outermostInside name []).map next := by
  have hchildren : (children.positions.map (0 :: ·)).filter
      ((element tag attributes text children tail rest).IsOutermost name []) = [] := by
    rw [List.filter_eq_nil_iff, List.forall_mem_map]
    intro q hq
    rw [decide_eq_true_eq, isOutermost_element_zero_cons (ne_nil_of_mem_positions hq), h]
    simp
  rw [outermostInside, positions, List.filter_cons_of_pos (by simpa [isOutermost_element_zero]),
    List.filter_append, hchildren, filter_isOutermost_next, List.nil_append]

theorem outermostInside_element_of_not_class
    (h : Element.hasClass { tag, attributes } name = false) :
    (element tag attributes text children tail rest).outermostInside name [] =
      (children.outermostInside name []).map (0 :: ·) ++
        (rest.outermostInside name []).map next := by
  have hchildren : (children.positions.map (0 :: ·)).filter
      ((element tag attributes text children tail rest).IsOutermost name []) =
        (children.outermostInside name []).map (0 :: ·) := by
    rw [List.filter_map, outermostInside]
    refine congrArg _ (List.filter_congr fun q hq => ?_)
    simp [isOutermost_element_zero_cons (ne_nil_of_mem_positions hq), h]
  rw [outermostInside, positions, List.filter_cons_of_neg (by simpa [isOutermost_element_zero]),
    List.filter_append, hchildren, filter_isOutermost_next]

theorem outermostInside_comment :
    (comment text tail rest).outermostInside name [] =
      (rest.outermostInside name []).map next := by
  simp only [outermostInside, positions, List.filter_map, Function.comp_def,
    isOutermost_comment_next]

theorem ne_nil_of_mem_outermostInside (h : q ∈ f.outermostInside name p) : q ≠ [] :=
  ne_nil_of_mem_positions (List.mem_of_mem_filter h)

/-- In a whole page, the walk that stops at each element of the class finds the outermost ones. -/
theorem map_at?_outermostInside_nil :
    (f.outermostInside name []).map f.at? = (f.outermost name).map some := by
  induction f with
  | nil => rfl
  | element tag attributes text children tail rest ihc ihr =>
    cases hclass : Element.hasClass { tag, attributes } name with
    | true =>
      rw [outermostInside_element_of_class hclass, outermost_element_of_class hclass,
        List.map_cons, map_at?_element_map_next, ihr]
      rfl
    | false =>
      rw [outermostInside_element_of_not_class hclass, outermost_element_of_not_class hclass,
        List.map_append, map_at?_map_zero_cons fun q => ne_nil_of_mem_outermostInside,
        map_at?_element_map_next, ihc, ihr, ← List.map_append]
  | comment text tail rest ih =>
    rw [outermostInside_comment, outermost, map_at?_comment_map_next, ih]

/-- Where the element at `p` stands makes no difference to what is outermost inside it. -/
theorem outermostInside_eq (h : f.at? p = some e) :
    f.outermostInside name p = (e.children.outermostInside name []).map (p ++ ·) := by
  have hinside : f.outermostInside name p =
      (f.positions.filter (Inside p)).filter (f.IsOutermost name p) := by
    rw [List.filter_filter, outermostInside]
    refine List.filter_congr fun q _ => ?_
    rw [← Bool.decide_and, decide_eq_decide]
    exact (and_iff_left_of_imp fun hq => hq.1).symm
  rw [hinside, filter_inside_positions h, List.filter_map, outermostInside]
  refine congrArg _ (List.filter_congr fun q _ => ?_)
  rw [Function.comp_apply, decide_eq_decide]
  exact isOutermost_append h

/-- **Climbing finds what descending finds.** The elements that carry the class and meet no other
one on the way up to `p` are those at which the walk down from there stops. -/
theorem map_at?_outermostInside (h : f.at? p = some e) :
    (f.outermostInside name p).map f.at? = (e.children.outermost name).map some := by
  rw [outermostInside_eq h, ← map_at?_outermostInside_nil, List.map_map]
  refine List.map_congr_left fun q hq => ?_
  exact at?_append h (ne_nil_of_mem_outermostInside hq)

theorem mem_outermostInside_iff : q ∈ f.outermostInside name p ↔ f.IsOutermost name p q := by
  rw [outermostInside, List.mem_filter, decide_eq_true_eq, mem_positions_iff]
  refine and_iff_right_of_imp fun h => ?_
  have hcarries : f.carries name q = true := h.2.1
  rw [carries] at hcarries
  cases hat : f.at? q with
  | none => rw [hat] at hcarries; exact absurd hcarries Bool.false_ne_true
  | some e => rfl

/-! ## Each element of a class once -/

theorem pairwise_outermostInside : (f.outermostInside name p).Pairwise (· < ·) :=
  pairwise_positions.sublist List.filter_sublist

/-- Two outermost elements around one position are the same. -/
theorem IsOutermost.eq_of_isPrefix {r s : Position} (hr : f.IsOutermost name p r)
    (hs : f.IsOutermost name p s) (hrq : r <+: q) (hsq : s <+: q) : r = s := by
  by_contra hne
  rcases Inside.connected hrq hsq hne with h | h
  · have hfalse : f.carries name r = false := hs.2.2 r hr.1 h
    exact Bool.eq_false_iff.1 hfalse hr.2.1
  · have hfalse : f.carries name s = false := hr.2.2 s hs.1 h
    exact Bool.eq_false_iff.1 hfalse hs.2.1

/-- An element that carries the class is outermost, or one around it is. -/
theorem exists_isOutermost_isPrefix {q : Position} (hq : Inside p q) (h : f.carries name q = true) :
    ∃ r, f.IsOutermost name p r ∧ r <+: q := by
  by_cases hbetween : ∀ r, Inside p r → Inside r q → f.carries name r = false
  · exact ⟨q, ⟨hq, h, hbetween⟩, List.prefix_rfl⟩
  · -- Otherwise there is an element of the class in between, which is nearer to `p`.
    push Not at hbetween
    obtain ⟨r, hr, hrq, hcarries⟩ := hbetween
    obtain ⟨s, hs, hsr⟩ := exists_isOutermost_isPrefix hr (Bool.not_eq_false _ ▸ hcarries)
    exact ⟨s, hs, hsr.trans hrq.1⟩
termination_by q.length
decreasing_by exact hrq.length_lt

theorem not_inside_of_mem_outermostInside {r : Position} (hq : q ∈ f.outermostInside name p)
    (hr : r ∈ f.outermostInside name p) : ¬ Inside q r := by
  intro hqr
  have hsame : q = r :=
    (mem_outermostInside_iff.1 hq).eq_of_isPrefix (mem_outermostInside_iff.1 hr) hqr.1
      List.prefix_rfl
  exact hqr.2 hsame

/-- An element that carries the class is outermost or inside just one outermost element. -/
theorem xor_mem_outermostInside (hq : Inside p q) (h : f.carries name q = true) :
    Xor (q ∈ f.outermostInside name p) (∃! r, r ∈ f.outermostInside name p ∧ Inside r q) := by
  obtain ⟨r, hr, hrq⟩ := exists_isOutermost_isPrefix hq h
  have hmemr : r ∈ f.outermostInside name p := mem_outermostInside_iff.2 hr
  by_cases hmem : q ∈ f.outermostInside name p
  · refine Or.inl ⟨hmem, ?_⟩
    rintro ⟨s, ⟨hs, hsq⟩, -⟩
    exact not_inside_of_mem_outermostInside hs hmem hsq
  · have hne : r ≠ q := fun heq => hmem (heq ▸ hmemr)
    refine Or.inr ⟨⟨r, ⟨hmemr, hrq, hne⟩, ?_⟩, hmem⟩
    rintro s ⟨hs, hsq⟩
    exact (mem_outermostInside_iff.1 hs).eq_of_isPrefix hr hsq.1 hrq

end

end Forest

/-! ## Values -/

namespace Element

open Forest

/-- The chosen positions inside `p` hold the parts of the value of the element there, and each
element that carries the class `value` counts once. -/
structure UsesEachPartOnce (page : Forest) (p : Position) (e : Element)
    (chosen : List Position) : Prop where
  /-- The chosen elements are the ones that the value is made of. -/
  elements : chosen.map page.at? = e.valueParts.map some
  /-- Every one of them is inside the element and carries the class. -/
  carries : ∀ q ∈ chosen, Inside p q ∧ page.carries "value" q = true
  /-- They are in document order. -/
  sorted : chosen.Pairwise (· < ·)
  /-- None is a descendant of another. -/
  apart : ∀ q ∈ chosen, ∀ r ∈ chosen, ¬ Inside q r
  /-- Every element of the class is chosen or inside just one chosen element. -/
  once : ∀ q, Inside p q → page.carries "value" q = true →
    Xor (q ∈ chosen) (∃! r, r ∈ chosen ∧ Inside r q)
  /-- The value is made of what each chosen element says. -/
  value : e.value = Text.strip (String.join ((chosen.filterMap page.at?).map ownValue))

/-- The values that are joined are those of the elements that are chosen. -/
theorem partValues_eq {page : Forest} {chosen : List Position} {e : Element}
    (h : chosen.map page.at? = e.valueParts.map some) :
    e.children.partValues = (chosen.filterMap page.at?).map ownValue := by
  have hparts : chosen.filterMap page.at? = e.valueParts := by
    have hat : chosen.filterMap page.at? = (chosen.map page.at?).filterMap id := by
      rw [List.filterMap_map, Function.id_comp]
    rw [hat, h]
    simp
  rw [hparts]
  rfl

/-- **Each part of a value is used once.** An element without a title of its own, with elements of
the class `value` inside, takes its value from the outermost of these; whether it or anything around
it carries the class as well has no say. -/
theorem usesEachPartOnce {page : Forest} {p : Position} {e : Element} (hat : page.at? p = some e)
    (htitle : e.title? = none) (hpart : ∃ q, Inside p q ∧ page.carries "value" q = true) :
    UsesEachPartOnce page p e (page.outermostInside "value" p) := by
  have helements : (page.outermostInside "value" p).map page.at? = e.valueParts.map some :=
    map_at?_outermostInside hat
  have hne : e.children.partValues ≠ [] := by
    intro hnil
    obtain ⟨q, hq, hcarries⟩ := hpart
    obtain ⟨r, hr, -⟩ := exists_isOutermost_isPrefix hq hcarries
    have hnone : e.valueParts = [] := List.map_eq_nil_iff.1 hnil
    rw [hnone, List.map_nil, List.map_eq_nil_iff] at helements
    exact List.ne_nil_of_mem (mem_outermostInside_iff.2 hr) helements
  refine ⟨helements, ?_, pairwise_outermostInside, ?_, fun q => xor_mem_outermostInside, ?_⟩
  · intro q hq
    have houter : page.IsOutermost "value" p q := mem_outermostInside_iff.1 hq
    exact ⟨houter.1, houter.2.1⟩
  · intro q hq r hr
    exact not_inside_of_mem_outermostInside hq hr
  · rw [value_of_parts htitle hne, partValues_eq helements]

/-- A part in a part, behind it a second part, in an element that carries the class itself and
stands in another one that does. -/
theorem usesEachPartOnce_of_nested_parts :
    let value : Attributes := [({ localName := "class" }, "value")]
    let parts : Forest :=
      .element "span" value "a" (.element "b" value "b" .nil "" .nil) "-"
        (.element "i" [] "" (.element "span" value " c " .nil "" .nil) "" .nil)
    let e : Element := ⟨"p", value, "", parts⟩
    let page : Forest := .element "div" value "" (.element "p" value "" parts "" .nil) "" .nil
    page.at? [0, 0] = some e ∧ e.title? = none ∧
      (Inside [0, 0] [0, 0, 1, 0] ∧ page.carries "value" [0, 0, 1, 0] = true) ∧
      page.outermostInside "value" [0, 0] = [[0, 0, 0], [0, 0, 1, 0]] ∧ e.value = "abc" ∧
      UsesEachPartOnce page [0, 0] e [[0, 0, 0], [0, 0, 1, 0]] := by
  intro value parts e page
  have hat : page.at? [0, 0] = some e := rfl
  have htitle : e.title? = none := by decide
  have hpart : Inside [0, 0] [0, 0, 1, 0] ∧ page.carries "value" [0, 0, 1, 0] = true := by decide
  have hchosen : page.outermostInside "value" [0, 0] = [[0, 0, 0], [0, 0, 1, 0]] := by decide
  have hvalue : e.value = "abc" := by decide
  refine ⟨hat, htitle, hpart, hchosen, hvalue, ?_⟩
  rw [← hchosen]
  exact usesEachPartOnce hat htitle ⟨_, hpart⟩

end Element

end VCardKit.Html
