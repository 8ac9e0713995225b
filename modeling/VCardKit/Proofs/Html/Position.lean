/-
  Positions in a page. Elements that are alike may stand in many places, so what holds of an element
  in its surroundings is said of its position: its number in its row, after the numbers of the
  elements around it. What lies inside an element has its position in front (`Position.Inside`). The
  elements of a page in document order are those at its positions in lexicographic order
  (`Forest.map_at?_positions`, `Forest.pairwise_positions`).
-/
import VCardKit.Html.Element
import Mathlib.Data.List.Infix

namespace VCardKit.Html

/-! ## Positions -/

/-- Numbers from the outside in; every element and every comment counts in its row. -/
abbrev Position := List Nat

namespace Position

/-- What is at `q` lies inside the element at `p`, at any depth. -/
def Inside (p q : Position) : Prop := p <+: q ∧ p ≠ q

instance (p q : Position) : Decidable (Inside p q) := inferInstanceAs (Decidable (_ ∧ _))

/-- The same position in a row with one more element or comment in front. -/
def next : Position → Position
  | [] => []
  | i :: p => (i + 1) :: p

variable {p q r : Position} {i j : Nat}

@[simp] theorem next_cons : next (i :: p) = (i + 1) :: p := rfl

@[simp] theorem next_eq_nil : next p = [] ↔ p = [] := by
  cases p <;> simp [next]

@[simp] theorem next_eq_zero_cons : next p ≠ 0 :: q := by
  cases p <;> simp [next]

@[simp] theorem next_eq_succ_cons : next p = (i + 1) :: q ↔ p = i :: q := by
  cases p <;> simp [next]

namespace Inside

theorem length_lt (h : Inside p q) : p.length < q.length := by
  have hle : p.length ≤ q.length := h.1.length_le
  have hne : p.length ≠ q.length := fun heq => h.2 (h.1.eq_of_length heq)
  omega

/-- Of two positions around a third one, one lies inside the other. -/
theorem connected (hp : p <+: r) (hq : q <+: r) (hne : p ≠ q) : Inside p q ∨ Inside q p := by
  rcases List.prefix_or_prefix_of_prefix hp hq with h | h
  · exact Or.inl ⟨h, hne⟩
  · exact Or.inr ⟨h, hne.symm⟩

end Inside

@[simp] theorem nil_inside : Inside [] q ↔ q ≠ [] := by
  simp [Inside, eq_comm]

@[simp] theorem not_inside_nil : ¬ Inside p [] := by
  simp [Inside]

@[simp] theorem cons_inside_cons : Inside (i :: p) (j :: q) ↔ i = j ∧ Inside p q := by
  simp only [Inside, List.cons_prefix_cons, ne_eq, List.cons.injEq]
  tauto

@[simp] theorem append_inside_append : Inside (p ++ q) (p ++ r) ↔ Inside q r := by
  simp [Inside]

theorem inside_iff_append : Inside p q ↔ ∃ r, r ≠ [] ∧ q = p ++ r := by
  constructor
  · rintro ⟨⟨r, rfl⟩, hne⟩
    exact ⟨r, by simpa using hne, rfl⟩
  · rintro ⟨r, hne, rfl⟩
    exact ⟨List.prefix_append p r, by simpa using hne⟩

@[simp] theorem not_zero_cons_inside_next : ¬ Inside (0 :: p) (next q) := by
  cases q <;> simp [next]

@[simp] theorem succ_cons_inside_next : Inside ((i + 1) :: p) (next q) ↔ Inside (i :: p) q := by
  cases q <;> simp [next]

theorem zero_cons_lt_zero_cons : (0 :: p : Position) < 0 :: q ↔ p < q := by
  simp

theorem next_lt_next : next p < next q ↔ p < q := by
  cases p <;> cases q <;> simp [next, List.cons_lt_cons_iff]

theorem nil_lt (h : q ≠ []) : ([] : Position) < q := by
  obtain ⟨i, q, rfl⟩ := List.exists_cons_of_ne_nil h
  exact List.nil_lt_cons i q

theorem zero_cons_lt_next (h : q ≠ []) : (0 :: p : Position) < next q := by
  obtain ⟨i, q, rfl⟩ := List.exists_cons_of_ne_nil h
  simp [next, List.cons_lt_cons_iff]

end Position

/-! ## The elements of a page -/

namespace Forest

open Position

/-- The element at a position, if there is one. -/
def at? : Forest → Position → Option Element
  | nil, _ => none
  | element .., [] => none
  | element tag attributes text children _ _, [0] => some ⟨tag, attributes, text, children⟩
  | element _ _ _ children _ _, 0 :: p => children.at? p
  | element _ _ _ _ _ rest, (i + 1) :: p => rest.at? (i :: p)
  | comment _ _ rest, (i + 1) :: p => rest.at? (i :: p)
  | comment .., _ => none

/-- The positions of all elements, in document order. -/
def positions : Forest → List Position
  | nil => []
  | element _ _ _ children _ rest =>
    [0] :: (children.positions.map (0 :: ·) ++ rest.positions.map next)
  | comment _ _ rest => rest.positions.map next

variable {f : Forest} {p q : Position} {e : Element}
variable {tag text tail : String} {attributes : Attributes} {children rest : Forest}

@[simp] theorem at?_nil : f.at? [] = none := by
  cases f <;> rfl

theorem at?_element_zero_cons (h : p ≠ []) :
    (element tag attributes text children tail rest).at? (0 :: p) = children.at? p := by
  obtain ⟨i, p, rfl⟩ := List.exists_cons_of_ne_nil h
  rfl

@[simp] theorem at?_element_next :
    (element tag attributes text children tail rest).at? (next p) = rest.at? p := by
  cases p with
  | nil => rw [next, at?_nil, at?_nil]
  | cons i p => rfl

@[simp] theorem at?_comment_next : (comment text tail rest).at? (next p) = rest.at? p := by
  cases p with
  | nil => rw [next, at?_nil, at?_nil]
  | cons i p => rfl

/-- What is at a position inside an element is found from the element. -/
theorem at?_append (h : f.at? p = some e) (hq : q ≠ []) : f.at? (p ++ q) = e.children.at? q := by
  induction f generalizing p with
  | nil => exact absurd h (by simp [at?])
  | element tag attributes text children tail rest ihc ihr =>
    match p with
    | [] => exact absurd h (by simp)
    | [0] =>
      obtain rfl : (⟨tag, attributes, text, children⟩ : Element) = e := Option.some.inj h
      exact at?_element_zero_cons hq
    | 0 :: j :: p => exact ihc h
    | (i + 1) :: p => exact ihr h
  | comment text tail rest ih =>
    match p with
    | [] => exact absurd h (by simp)
    | 0 :: p => exact absurd h (by simp [at?])
    | (i + 1) :: p => exact ih h

/-- The listed positions are those at which an element is. -/
theorem mem_positions_iff : p ∈ f.positions ↔ (f.at? p).isSome = true := by
  induction f generalizing p with
  | nil => simp [positions, at?]
  | element tag attributes text children tail rest ihc ihr =>
    have hmem : p ∈ (element tag attributes text children tail rest).positions ↔
        p = [0] ∨ (∃ q ∈ children.positions, 0 :: q = p) ∨ ∃ q ∈ rest.positions, next q = p := by
      simp [positions]
    rw [hmem]
    match p with
    | [] => simp [ihr]
    | [0] => simp [at?, ihc]
    | 0 :: j :: p => simp [at?, ihc]
    | (i + 1) :: p => simp [at?, ihr]
  | comment text tail rest ih =>
    match p with
    | [] => simp [positions, ih]
    | 0 :: p => simp [positions, at?]
    | (i + 1) :: p => simp [positions, at?, ih]

theorem ne_nil_of_mem_positions (h : p ∈ f.positions) : p ≠ [] := by
  rintro rfl
  rw [mem_positions_iff, at?_nil] at h
  exact absurd h Bool.false_ne_true

section

variable {l : List Position}

theorem map_at?_map_zero_cons (h : ∀ q ∈ l, q ≠ []) :
    (l.map (0 :: ·)).map (element tag attributes text children tail rest).at? =
      l.map children.at? := by
  rw [List.map_map]
  exact List.map_congr_left fun q hq => at?_element_zero_cons (h q hq)

theorem map_at?_element_map_next :
    (l.map next).map (element tag attributes text children tail rest).at? = l.map rest.at? := by
  rw [List.map_map]
  exact List.map_congr_left fun q _ => at?_element_next

theorem map_at?_comment_map_next :
    (l.map next).map (comment text tail rest).at? = l.map rest.at? := by
  rw [List.map_map]
  exact List.map_congr_left fun q _ => at?_comment_next

end

/-- At the listed positions are the elements, in the same order. -/
theorem map_at?_positions : f.positions.map f.at? = f.elements.map some := by
  induction f with
  | nil => rfl
  | element tag attributes text children tail rest ihc ihr =>
    have hzero : (element tag attributes text children tail rest).at? [0] =
        some ⟨tag, attributes, text, children⟩ := rfl
    rw [positions, elements, List.map_cons, List.map_append, hzero,
      map_at?_map_zero_cons fun q => ne_nil_of_mem_positions, map_at?_element_map_next, ihc, ihr,
      ← List.map_append, ← List.map_cons]
  | comment text tail rest ih => rw [positions, elements, map_at?_comment_map_next, ih]

/-- Document order is the lexicographic order of the positions. -/
theorem pairwise_positions : f.positions.Pairwise (· < ·) := by
  induction f with
  | nil => exact .nil
  | element tag attributes text children tail rest ihc ihr =>
    have hchildren : (children.positions.map (0 :: ·)).Pairwise (· < ·) := by
      simpa only [List.pairwise_map, zero_cons_lt_zero_cons] using ihc
    have hrest : (rest.positions.map next).Pairwise (· < ·) := by
      simpa only [List.pairwise_map, next_lt_next] using ihr
    rw [positions, List.pairwise_cons, List.pairwise_append]
    refine ⟨?_, hchildren, hrest, ?_⟩
    · -- An element comes before all that is in it or behind it.
      intro q hq
      rcases List.mem_append.1 hq with hq | hq
      · obtain ⟨r, hr, rfl⟩ := List.mem_map.1 hq
        exact zero_cons_lt_zero_cons.2 (nil_lt (ne_nil_of_mem_positions hr))
      · obtain ⟨r, hr, rfl⟩ := List.mem_map.1 hq
        exact zero_cons_lt_next (ne_nil_of_mem_positions hr)
    · intro q hq r hr
      obtain ⟨q', -, rfl⟩ := List.mem_map.1 hq
      obtain ⟨r', hr', rfl⟩ := List.mem_map.1 hr
      exact zero_cons_lt_next (ne_nil_of_mem_positions hr')
  | comment text tail rest ih =>
    simpa only [positions, List.pairwise_map, next_lt_next] using ih

/-- The positions inside an element are those that it has itself. -/
theorem filter_inside_positions (h : f.at? p = some e) :
    f.positions.filter (Inside p) = e.children.positions.map (p ++ ·) := by
  induction f generalizing p with
  | nil => exact absurd h (by simp [at?])
  | element tag attributes text children tail rest ihc ihr =>
    match p with
    | [] => exact absurd h (by simp)
    | [0] =>
      obtain rfl : (⟨tag, attributes, text, children⟩ : Element) = e := Option.some.inj h
      have hall : children.positions.filter (fun q => !decide (q = [])) = children.positions := by
        refine List.filter_eq_self.2 fun q hq => ?_
        simpa using ne_nil_of_mem_positions hq
      simp [positions, List.filter_map, Function.comp_def, hall]
    | 0 :: j :: p =>
      have hinner := ihc h
      simp [positions, List.filter_map, Function.comp_def, hinner]
    | (i + 1) :: p =>
      have hbehind := ihr h
      simp [positions, List.filter_map, Function.comp_def, hbehind]
  | comment text tail rest ih =>
    match p with
    | [] => exact absurd h (by simp)
    | 0 :: p => exact absurd h (by simp [at?])
    | (i + 1) :: p =>
      have hbehind := ih h
      simp [positions, List.filter_map, Function.comp_def, hbehind]

end Forest

end VCardKit.Html
