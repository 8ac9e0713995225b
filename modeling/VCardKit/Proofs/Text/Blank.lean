/-
  Blanks in texts. A text is reflowed into another one when each of its runs of blanks gives way to
  some other run of blanks, as when the source of a page is laid out anew (`Reflowed`). Collapsing
  takes away the layout and nothing else: two texts have the same collapsed form exactly if one is
  the other one reflowed (`reflowed_iff_collapse_eq`).
-/
import VCardKit.Text.Blank

namespace VCardKit.Text

variable {c : Char}

/-! ## Trimming -/

theorem isBlank_space : isBlank ' ' = true := by decide

theorem trimLeft_cons_of_blank (h : isBlank c = true) (rest : List Char) :
    trimLeft (c :: rest) = trimLeft rest :=
  List.dropWhile_cons_of_pos h

theorem trimLeft_cons_of_not_blank (h : isBlank c = false) (rest : List Char) :
    trimLeft (c :: rest) = c :: rest :=
  List.dropWhile_cons_of_neg (Bool.eq_false_iff.1 h)

theorem trimLeft_run_append {run : List Char} (h : ∀ c ∈ run, isBlank c = true)
    (rest : List Char) : trimLeft (run ++ rest) = trimLeft rest :=
  List.dropWhile_append_of_pos h

/-- Trimming stops at a character that is not blank. -/
theorem trimLeft_append_cons (h : isBlank c = false) (front rest : List Char) :
    trimLeft (front ++ c :: rest) = trimLeft front ++ c :: rest := by
  induction front with
  | nil => exact trimLeft_cons_of_not_blank h rest
  | cons d front ih =>
    rw [List.cons_append]
    cases hd : isBlank d with
    | true => rw [trimLeft_cons_of_blank hd, trimLeft_cons_of_blank hd, ih]
    | false =>
      rw [trimLeft_cons_of_not_blank hd, trimLeft_cons_of_not_blank hd, List.cons_append]

theorem trimRight_append_cons (h : isBlank c = false) (front rest : List Char) :
    trimRight (front ++ c :: rest) = front ++ c :: trimRight rest := by
  have hreverse : (front ++ c :: rest).reverse = rest.reverse ++ c :: front.reverse := by simp
  have hdrop : trimLeft (front ++ c :: rest).reverse =
      trimLeft rest.reverse ++ c :: front.reverse := by
    rw [hreverse, trimLeft_append_cons h]
  rw [trimRight, ← trimLeft, hdrop, List.reverse_append, List.reverse_cons, List.reverse_reverse,
    List.append_assoc]
  rfl

theorem trim_append_cons (h : isBlank c = false) (front rest : List Char) :
    trim (front ++ c :: rest) = trimLeft front ++ c :: trimRight rest := by
  rw [trim, trimLeft_append_cons h, trimRight_append_cons h]

/-! ## A line feed at the end -/

/-- A text without the line feed at its end, if there is one. -/
def withoutBreak (cs : List Char) : List Char :=
  if cs.getLast? = some '\n' then cs.dropLast else cs

theorem withoutBreak_append_break (cs : List Char) : withoutBreak (cs ++ ['\n']) = cs := by
  simp [withoutBreak]

theorem withoutBreak_of_not_mem {cs : List Char} (h : '\n' ∉ cs) : withoutBreak cs = cs :=
  if_neg fun hlast => h (List.mem_of_getLast? hlast)

/-- A rule for texts without line feeds, read with the line feed at the end left aside. -/
theorem withoutBreak_iff {P : List Char → Prop} (hP : ∀ cs, P cs → '\n' ∉ cs) {cs : List Char} :
    P (withoutBreak cs) ↔ P cs ∨ ∃ front, P front ∧ cs = front ++ ['\n'] := by
  constructor
  · intro h
    by_cases hlast : cs.getLast? = some '\n'
    · obtain ⟨front, rfl⟩ := List.getLast?_eq_some_iff.1 hlast
      rw [withoutBreak_append_break] at h
      exact Or.inr ⟨front, h, rfl⟩
    · rw [withoutBreak, if_neg hlast] at h
      exact Or.inl h
  · rintro (h | ⟨front, h, rfl⟩)
    · rwa [withoutBreak_of_not_mem (hP _ h)]
    · rwa [withoutBreak_append_break]

/-! ## Collapsing -/

theorem collapse_cons_of_not_blank (h : isBlank c = false) (rest : List Char) :
    collapse (c :: rest) = c :: collapse rest := by
  cases rest <;> simp [collapse, h]

/-- A run of blanks collapses together with all blanks that follow. -/
theorem collapse_cons_of_blank (h : isBlank c = true) (rest : List Char) :
    collapse (c :: rest) = ' ' :: collapse (trimLeft rest) := by
  induction rest generalizing c with
  | nil => rw [collapse, if_pos h]; rfl
  | cons d rest ih =>
    rw [collapse, if_pos h]
    cases hd : isBlank d with
    | true => rw [trimLeft_cons_of_blank hd, ← ih hd]; rfl
    | false => rw [trimLeft_cons_of_not_blank hd]; rfl

theorem collapse_cons_ne_nil (c : Char) (rest : List Char) : collapse (c :: rest) ≠ [] := by
  cases h : isBlank c with
  | true => simp [collapse_cons_of_blank h]
  | false => simp [collapse_cons_of_not_blank h]

/-! ## Reflowed texts -/

/-- Two texts that differ in their runs of blanks alone: where one text has a run, the other has
one too, of any blanks and of any length. -/
inductive Reflowed : List Char → List Char → Prop
  | nil : Reflowed [] []
  | char {c : Char} {a b : List Char} (hc : isBlank c = false) (h : Reflowed a b) :
    Reflowed (c :: a) (c :: b)
  | blanks {run run' a b : List Char} (hne : run ≠ []) (hne' : run' ≠ [])
      (hrun : ∀ c ∈ run, isBlank c = true) (hrun' : ∀ c ∈ run', isBlank c = true)
      (h : Reflowed a b) : Reflowed (run ++ a) (run' ++ b)

theorem collapse_run_append {run : List Char} (hne : run ≠ [])
    (h : ∀ c ∈ run, isBlank c = true) (rest : List Char) :
    collapse (run ++ rest) = ' ' :: collapse (trimLeft rest) := by
  obtain ⟨c, run, rfl⟩ := List.exists_cons_of_ne_nil hne
  obtain ⟨hc, hrun⟩ := List.forall_mem_cons.1 h
  rw [List.cons_append, collapse_cons_of_blank hc, trimLeft_run_append hrun]

namespace Reflowed

variable {a b : List Char}

/-- What follows a run of blanks is collapsed without its own blanks in front, so the induction
needs both forms. -/
theorem collapse_eq_and (h : Reflowed a b) :
    collapse a = collapse b ∧ collapse (trimLeft a) = collapse (trimLeft b) := by
  induction h with
  | nil => exact ⟨rfl, rfl⟩
  | char hc _ ih =>
    rw [trimLeft_cons_of_not_blank hc, trimLeft_cons_of_not_blank hc, collapse_cons_of_not_blank hc,
      collapse_cons_of_not_blank hc, ih.1]
    exact ⟨rfl, rfl⟩
  | blanks hne hne' hrun hrun' _ ih =>
    rw [collapse_run_append hne hrun, collapse_run_append hne' hrun', trimLeft_run_append hrun,
      trimLeft_run_append hrun', ih.2]
    exact ⟨rfl, rfl⟩

theorem collapse_eq (h : Reflowed a b) : collapse a = collapse b := h.collapse_eq_and.1

theorem of_collapse_eq {a b : List Char} (h : collapse a = collapse b) : Reflowed a b := by
  match a, b with
  | [], [] => exact .nil
  | [], d :: b => exact absurd h.symm (collapse_cons_ne_nil d b)
  | c :: a, [] => exact absurd h (collapse_cons_ne_nil c a)
  | c :: a, d :: b =>
    cases hc : isBlank c <;> cases hd : isBlank d
    case false.false =>
      rw [collapse_cons_of_not_blank hc, collapse_cons_of_not_blank hd] at h
      obtain ⟨rfl, hrest⟩ := List.cons.inj h
      exact .char hc (of_collapse_eq hrest)
    case false.true =>
      rw [collapse_cons_of_not_blank hc, collapse_cons_of_blank hd] at h
      rw [(List.cons.inj h).1, isBlank_space] at hc
      contradiction
    case true.false =>
      rw [collapse_cons_of_blank hc, collapse_cons_of_not_blank hd] at h
      rw [← (List.cons.inj h).1, isBlank_space] at hd
      contradiction
    case true.true =>
      rw [collapse_cons_of_blank hc, collapse_cons_of_blank hd] at h
      have hrest : Reflowed (trimLeft a) (trimLeft b) := of_collapse_eq (List.cons.inj h).2
      -- Each text is its first blank, the blanks behind it, and the rest.
      rw [← List.takeWhile_append_dropWhile (p := isBlank) (l := a),
        ← List.takeWhile_append_dropWhile (p := isBlank) (l := b), ← List.cons_append,
        ← List.cons_append]
      refine .blanks (List.cons_ne_nil _ _) (List.cons_ne_nil _ _) ?_ ?_ hrest
      · exact List.forall_mem_cons.2 ⟨hc, List.all_eq_true.1 List.all_takeWhile⟩
      · exact List.forall_mem_cons.2 ⟨hd, List.all_eq_true.1 List.all_takeWhile⟩
termination_by a.length
decreasing_by
  · exact Nat.lt_succ_self _
  · exact Nat.lt_succ_of_le (length_dropWhile_le isBlank _)

end Reflowed

theorem reflowed_iff_collapse_eq {a b : List Char} : Reflowed a b ↔ collapse a = collapse b :=
  ⟨Reflowed.collapse_eq, Reflowed.of_collapse_eq⟩

instance (a b : List Char) : Decidable (Reflowed a b) :=
  decidable_of_iff _ reflowed_iff_collapse_eq.symm

end VCardKit.Text
