/-
  The lines of a text. What is said of every two neighbours in a text with a line feed around it can
  be said of each line (`isChain_intercalate_iff`), so texts are put together out of lines, and
  lines are found in texts, without a look at where they begin. A text is tidy if its only blanks
  are spaces and line feeds, and neither the text nor one of its lines begins or ends with a blank;
  tidy texts in a row are a tidy text (`Tidy.flatten`).
-/
import VCardKit.Proofs.Text.Spacing

namespace VCardKit.Text

variable {c : Char} {cs ds line : List Char} {ts lines : List (List Char)}

/-! ## Cutting into lines -/

/-- The lines of a text. -/
def linesOf (cs : List Char) : List (List Char) := pieces (· = '\n') cs

theorem linesOf_ne_nil (cs : List Char) : linesOf cs ≠ [] := pieces_ne_nil _ cs

theorem linesOf_break_cons (cs : List Char) : linesOf ('\n' :: cs) = [] :: linesOf cs := rfl

theorem linesOf_cons (h : c ≠ '\n') (cs : List Char) :
    linesOf (c :: cs) = (linesOf cs).modifyHead (c :: ·) := by
  obtain ⟨line, rest, hlines⟩ := List.exists_cons_of_ne_nil (linesOf_ne_nil cs)
  have hpieces : pieces (· = '\n') cs = line :: rest := hlines
  rw [linesOf, pieces, if_neg (by simpa using h), hlines, hpieces]
  rfl

theorem linesOf_append (h : '\n' ∉ cs) (ds : List Char) :
    linesOf (cs ++ ds) = (linesOf ds).modifyHead (cs ++ ·) := by
  induction cs with
  | nil => exact (congrFun List.modifyHead_id (linesOf ds)).symm
  | cons c cs ih =>
    rw [List.mem_cons, not_or] at h
    rw [List.cons_append, linesOf_cons (Ne.symm h.1), ih h.2, List.modifyHead_modifyHead]
    rfl

theorem linesOf_eq_splitOn (cs : List Char) : linesOf cs = cs.splitOn '\n' := by
  induction cs with
  | nil => rfl
  | cons c cs ih =>
    rw [List.splitOn_eq_splitOnP, List.splitOnP_cons_eq_if_modifyHead, ← List.splitOn_eq_splitOnP,
      ← ih]
    split
    · next h => rw [eq_of_beq h, linesOf_break_cons]
    · next h => rw [linesOf_cons (by simpa using h)]

theorem intercalate_linesOf (cs : List Char) : ['\n'].intercalate (linesOf cs) = cs := by
  rw [linesOf_eq_splitOn, List.intercalate_splitOn]

theorem break_not_mem_of_mem_linesOf (h : line ∈ linesOf cs) : '\n' ∉ line := by
  induction cs generalizing line with
  | nil =>
    obtain rfl : line = [] := List.mem_singleton.1 h
    exact List.not_mem_nil
  | cons c cs ih =>
    by_cases hc : c = '\n'
    · rw [hc, linesOf_break_cons] at h
      rcases List.mem_cons.1 h with rfl | h
      · exact List.not_mem_nil
      · exact ih h
    · obtain ⟨first, rest, hlines⟩ := List.exists_cons_of_ne_nil (linesOf_ne_nil cs)
      rw [linesOf_cons hc, hlines, List.modifyHead_cons] at h
      rcases List.mem_cons.1 h with rfl | h
      · have hfirst : '\n' ∉ first := ih (hlines ▸ List.mem_cons_self)
        exact List.not_mem_cons_of_ne_of_not_mem (Ne.symm hc) hfirst
      · exact ih (hlines ▸ List.mem_cons_of_mem first h)

theorem infix_intercalate (h : line ∈ lines) : line <:+: ['\n'].intercalate lines := by
  induction lines with
  | nil => exact absurd h List.not_mem_nil
  | cons first rest ih =>
    cases rest with
    | nil =>
      obtain rfl : line = first := List.mem_singleton.1 h
      rw [List.intercalate_singleton]
    | cons next rest =>
      rw [List.intercalate_cons_cons]
      rcases List.mem_cons.1 h with rfl | h
      · exact (List.prefix_append _ _).isInfix.trans (List.prefix_append _ _).isInfix
      · exact (ih h).trans (List.suffix_append _ _).isInfix

theorem infix_of_mem_linesOf (h : line ∈ linesOf cs) : line <:+: cs := by
  have hinfix : line <:+: ['\n'].intercalate (linesOf cs) := infix_intercalate h
  rwa [intercalate_linesOf] at hinfix

/-! ## Neighbours -/

/-- A text between two line feeds. -/
def framed (cs : List Char) : List Char := '\n' :: cs ++ ['\n']

theorem infix_framed (cs : List Char) : cs <:+: framed cs := ⟨['\n'], ['\n'], rfl⟩

/-- A rule for neighbours holds in a framed text exactly if it holds in each of its framed lines. -/
theorem isChain_intercalate_iff {R : Char → Char → Prop} (h : lines ≠ []) :
    (framed (['\n'].intercalate lines)).IsChain R ↔ ∀ line ∈ lines, (framed line).IsChain R := by
  induction lines with
  | nil => exact absurd rfl h
  | cons line rest ih =>
    cases rest with
    | nil => simp [List.intercalate_singleton]
    | cons next rest =>
      have hshape : framed (['\n'].intercalate (line :: next :: rest)) =
          ('\n' :: line) ++ '\n' :: (['\n'].intercalate (next :: rest) ++ ['\n']) := by
        simp [framed, List.intercalate_cons_cons]
      rw [hshape, List.isChain_split, List.forall_mem_cons, ← ih (List.cons_ne_nil next rest)]
      rfl

theorem isChain_framed_iff {R : Char → Char → Prop} (hR : R '\n' '\n') :
    (framed cs).IsChain R ↔
      (∀ c ∈ cs.head?, R '\n' c) ∧ cs.IsChain R ∧ ∀ c ∈ cs.getLast?, R c '\n' := by
  cases cs with
  | nil => simpa [framed] using hR
  | cons c cs =>
    rw [framed, List.cons_append, List.isChain_cons, List.isChain_append]
    simp

/-- A rule for neighbours that always holds of two characters that are not blank holds in a row of
trimmed texts exactly if it holds in each of them. -/
theorem isChain_flatten_iff {R : Char → Char → Prop}
    (hR : ∀ a b, isBlank a = false → isBlank b = false → R a b) (h : ∀ t ∈ ts, Trimmed t) :
    ts.flatten.IsChain R ↔ ∀ t ∈ ts, t.IsChain R := by
  induction ts with
  | nil => simp
  | cons t ts ih =>
    have hrest : ∀ u ∈ ts, Trimmed u := fun u hu => h u (List.mem_cons_of_mem t hu)
    have hmeet : ∀ a ∈ t.getLast?, ∀ b ∈ ts.flatten.head?, R a b := fun a ha b hb =>
      hR a b ((h t List.mem_cons_self).last a ha) ((Trimmed.flatten hrest).first b hb)
    rw [List.flatten_cons, List.isChain_append, List.forall_mem_cons, ih hrest]
    exact ⟨fun hall => ⟨hall.1, hall.2.1⟩, fun hall => ⟨hall.1, hall.2, hmeet⟩⟩

/-! ## Two blanks side by side -/

theorem singleSpaced_framed : SingleSpaced (framed cs) ↔ SingleSpaced cs := by
  have hbreak : ¬ IsGap '\n' := by decide
  rw [SingleSpaced, isChain_framed_iff (by simp [hbreak])]
  simp [SingleSpaced, hbreak]

theorem singleSpaced_flatten (h : ∀ t ∈ ts, Trimmed t) :
    SingleSpaced ts.flatten ↔ ∀ t ∈ ts, SingleSpaced t := by
  refine isChain_flatten_iff (fun a b ha _ => ?_) h
  rintro ⟨hgap, -⟩
  exact absurd hgap.1 (by simp [ha])

/-! ## Tidy texts -/

/-- At a line feed there are no blanks in the lines on both sides. -/
def BreakClear (a b : Char) : Prop := (a = '\n' → ¬ IsGap b) ∧ (b = '\n' → ¬ IsGap a)

/-- The only blanks are spaces and line feeds, and they are nowhere at the ends of the text or of a
line. -/
structure Tidy (cs : List Char) : Prop where
  blanks : ∀ c ∈ cs, isBlank c = true → c = ' ' ∨ c = '\n'
  lines : ∀ line ∈ linesOf cs, Trimmed line
  trimmed : Trimmed cs

theorem breakClear_of_not_blank {a b : Char} (ha : a = '\n' ∨ isBlank a = false)
    (hb : b = '\n' ∨ isBlank b = false) : BreakClear a b := by
  have hclear : ∀ {c : Char}, c = '\n' ∨ isBlank c = false → ¬ IsGap c := by
    rintro c (rfl | hc) hgap
    · exact hgap.2 rfl
    · exact absurd hgap.1 (by simp [hc])
  exact ⟨fun _ => hclear hb, fun _ => hclear ha⟩

theorem breakClear_break : BreakClear '\n' '\n' :=
  breakClear_of_not_blank (Or.inl rfl) (Or.inl rfl)

/-- In a trimmed text nothing has to be said of its ends. -/
theorem Trimmed.isChain_framed_iff (h : Trimmed cs) :
    (framed cs).IsChain BreakClear ↔ cs.IsChain BreakClear := by
  rw [Text.isChain_framed_iff breakClear_break]
  refine ⟨fun hall => hall.2.1, fun hall => ⟨fun c hc => ?_, hall, fun c hc => ?_⟩⟩
  · exact breakClear_of_not_blank (Or.inl rfl) (Or.inr (h.first c hc))
  · exact breakClear_of_not_blank (Or.inr (h.last c hc)) (Or.inl rfl)

/-- In a text without line feeds only the ends matter. -/
theorem isChain_framed_breakClear_iff (h : '\n' ∉ line) :
    (framed line).IsChain BreakClear ↔ Trimmed line := by
  have hinside : line.IsChain BreakClear := by
    rw [List.isChain_iff_forall_rel_of_append_cons_cons]
    rintro a b front back rfl
    refine ⟨fun ha => absurd ?_ h, fun hb => absurd ?_ h⟩
    · simp [ha]
    · simp [hb]
  have hend : ∀ c ∈ line, ¬ IsGap c → isBlank c = false := by
    intro c hc hgap
    have hne : c ≠ '\n' := fun hbreak => h (hbreak ▸ hc)
    exact Bool.eq_false_iff.2 fun hblank => hgap ⟨hblank, hne⟩
  constructor
  · intro hchain
    obtain ⟨hfirst, -, hlast⟩ := (Text.isChain_framed_iff breakClear_break).1 hchain
    constructor
    · exact fun c hc => hend c (List.mem_of_mem_head? hc) ((hfirst c hc).1 rfl)
    · exact fun c hc => hend c (List.mem_of_getLast? hc) ((hlast c hc).2 rfl)
  · exact fun htrimmed => htrimmed.isChain_framed_iff.2 hinside

theorem lines_trimmed_iff :
    (∀ line ∈ linesOf cs, Trimmed line) ↔ (framed cs).IsChain BreakClear := by
  conv_rhs => rw [← intercalate_linesOf cs]
  rw [isChain_intercalate_iff (linesOf_ne_nil cs)]
  refine forall_congr' fun line => forall_congr' fun hline => ?_
  exact (isChain_framed_breakClear_iff (break_not_mem_of_mem_linesOf hline)).symm

theorem Trimmed.lines_trimmed_iff (h : Trimmed cs) :
    (∀ line ∈ linesOf cs, Trimmed line) ↔ cs.IsChain BreakClear := by
  rw [Text.lines_trimmed_iff, h.isChain_framed_iff]

/-- Tidy texts in a row are a tidy text: where two of them meet there are no blanks. -/
theorem Tidy.flatten (h : ∀ t ∈ ts, Tidy t) : Tidy ts.flatten := by
  have htrimmed : ∀ t ∈ ts, Trimmed t := fun t ht => (h t ht).trimmed
  have hflatten : Trimmed ts.flatten := Trimmed.flatten htrimmed
  refine ⟨?_, ?_, hflatten⟩
  · intro c hc
    obtain ⟨t, ht, hct⟩ := List.mem_flatten.1 hc
    exact (h t ht).blanks c hct
  · have hclear : ∀ a b, isBlank a = false → isBlank b = false → BreakClear a b :=
      fun a b ha hb => breakClear_of_not_blank (Or.inr ha) (Or.inr hb)
    rw [hflatten.lines_trimmed_iff, isChain_flatten_iff hclear htrimmed]
    exact fun t ht => (h t ht).trimmed.lines_trimmed_iff.1 (h t ht).lines

end VCardKit.Text
