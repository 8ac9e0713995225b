/-
  The blanks of a text. Collapsing leaves no two blanks side by side (`singleSpaced_collapse`), and
  keeps the ends of a text blank where they were. Two collapsed texts that are put together can
  still have two blanks side by side, where the first one ends in a blank and the second one begins
  with a blank; trimming the whole takes them away only if nothing is to be seen in front of them or
  behind them (`singleSpaced_trim_iff`).
-/
import VCardKit.Proofs.Text.Blank
import Mathlib.Data.List.Chain
import Mathlib.Data.List.Infix

namespace VCardKit.Text

variable {c : Char} {cs l r : List Char} {ts : List (List Char)}

/-! ## Texts without blanks at their ends -/

/-- Neither the first nor the last character is blank. -/
structure Trimmed (cs : List Char) : Prop where
  first : ∀ c ∈ cs.head?, isBlank c = false
  last : ∀ c ∈ cs.getLast?, isBlank c = false

namespace Trimmed

theorem nil : Trimmed [] := ⟨by simp, by simp⟩

theorem append (hl : Trimmed l) (hr : Trimmed r) : Trimmed (l ++ r) := by
  constructor
  · intro c hc
    rw [List.head?_append] at hc
    rcases Option.or_eq_some_iff.1 hc with hc | ⟨-, hc⟩
    · exact hl.first c hc
    · exact hr.first c hc
  · intro c hc
    rw [List.getLast?_append] at hc
    rcases Option.or_eq_some_iff.1 hc with hc | ⟨-, hc⟩
    · exact hr.last c hc
    · exact hl.last c hc

theorem flatten (h : ∀ t ∈ ts, Trimmed t) : Trimmed ts.flatten := by
  induction ts with
  | nil => exact nil
  | cons t ts ih =>
    rw [List.flatten_cons]
    exact (h t List.mem_cons_self).append (ih fun u hu => h u (List.mem_cons_of_mem t hu))

/-- What is trimmed stays when blanks around it are trimmed. -/
theorem infix_trim (h : Trimmed l) (hl : l <:+: cs) : l <:+: trim cs := by
  obtain ⟨front, back, rfl⟩ := hl
  rcases List.eq_nil_or_concat' l with rfl | ⟨init, d, rfl⟩
  · exact List.nil_infix
  have hd : isBlank d = false := h.last d (by simp)
  obtain ⟨c, rest, hc⟩ := List.exists_cons_of_ne_nil (List.append_ne_nil_of_right_ne_nil init
    (List.cons_ne_nil d []))
  have hcblank : isBlank c = false := h.first c (by simp [hc])
  have hleft : trimLeft (front ++ (init ++ [d]) ++ back) =
      trimLeft front ++ (init ++ [d]) ++ back := by
    rw [hc, List.append_assoc, List.cons_append, trimLeft_append_cons hcblank]
    simp
  have hright : trimRight (trimLeft front ++ (init ++ [d]) ++ back) =
      trimLeft front ++ (init ++ [d]) ++ trimRight back := by
    have hshape : trimLeft front ++ (init ++ [d]) ++ back =
        (trimLeft front ++ init) ++ d :: back := by simp
    rw [hshape, trimRight_append_cons hd]
    simp
  rw [trim, hleft, hright]
  exact ⟨trimLeft front, trimRight back, rfl⟩

end Trimmed

theorem trimLeft_isSuffix : trimLeft cs <:+ cs := List.dropWhile_suffix _

theorem trimRight_isPrefix : trimRight cs <+: cs := by
  have hprefix : trimRight cs <+: cs.reverse.reverse :=
    List.reverse_prefix.2 (List.dropWhile_suffix isBlank)
  rwa [List.reverse_reverse] at hprefix

theorem trim_isInfix (cs : List Char) : trim cs <:+: cs :=
  trimRight_isPrefix.isInfix.trans trimLeft_isSuffix.isInfix

theorem isBlank_of_mem_head?_trimLeft (h : c ∈ (trimLeft cs).head?) : isBlank c = false := by
  have hhead := List.head?_dropWhile_not isBlank cs
  rw [← trimLeft, Option.mem_def.1 h] at hhead
  simpa using hhead

theorem trimmed_trim (cs : List Char) : Trimmed (trim cs) := by
  constructor
  · intro c hc
    obtain ⟨back, hback⟩ : trim cs <+: trimLeft cs := trimRight_isPrefix
    have hleft : c ∈ (trimLeft cs).head? := by
      rw [← hback, List.head?_append, Option.mem_def.1 hc]
      rfl
    exact isBlank_of_mem_head?_trimLeft hleft
  · intro c hc
    have hright : c ∈ (trimLeft (trimLeft cs).reverse).head? := by
      rwa [trim, trimRight, List.getLast?_reverse] at hc
    exact isBlank_of_mem_head?_trimLeft hright

theorem Trimmed.trim_eq (h : Trimmed cs) : trim cs = cs :=
  (trim_isInfix cs).eq_of_length_le (h.infix_trim List.infix_rfl).length_le

/-! ## Collapsed texts -/

/-- What stands for a character when a text is collapsed. -/
def squash (c : Char) : Char := if isBlank c then ' ' else c

theorem squash_of_blank (h : isBlank c = true) : squash c = ' ' := if_pos h

theorem squash_of_not_blank (h : isBlank c = false) : squash c = c := if_neg (by simp [h])

@[simp] theorem isBlank_squash (c : Char) : isBlank (squash c) = isBlank c := by
  cases h : isBlank c with
  | true => rw [squash_of_blank h, isBlank_space]
  | false => rw [squash_of_not_blank h, h]

theorem head?_collapse (cs : List Char) : (collapse cs).head? = cs.head?.map squash := by
  fun_induction collapse cs with
  | case1 => rfl
  | case2 c h => simp [squash_of_blank h]
  | case3 c h d rest hd ih => simp [ih, squash_of_blank h, squash_of_blank hd]
  | case4 c h d rest hd => simp [squash_of_blank h]
  | case5 c rest h => simp [squash, h]

theorem getLast?_collapse (cs : List Char) :
    (collapse cs).getLast? = cs.getLast?.map squash := by
  fun_induction collapse cs with
  | case1 => rfl
  | case2 c h => simp [squash_of_blank h]
  | case3 c h d rest hd ih => rw [ih, List.getLast?_cons_cons]
  | case4 c h d rest hd ih =>
    rw [List.getLast?_cons, ih, List.getLast?_cons_cons, List.getLast?_cons]
    rfl
  | case5 c rest h ih =>
    have hc : squash c = c := if_neg h
    rw [List.getLast?_cons, ih, List.getLast?_cons, Option.map_some]
    cases rest.getLast? with
    | none => exact congrArg some hc.symm
    | some d => rfl

/-- A collapsed text consists of spaces and of what is to be seen of the text. -/
theorem mem_collapse (h : c ∈ collapse cs) : c = ' ' ∨ isBlank c = false := by
  fun_induction collapse cs with
  | case1 => exact absurd h List.not_mem_nil
  | case2 d hd => exact Or.inl (List.mem_singleton.1 h)
  | case3 d hd d' rest hd' ih => exact ih h
  | case4 d hd d' rest hd' ih =>
    rcases List.mem_cons.1 h with h | h
    · exact Or.inl h
    · exact ih h
  | case5 d rest hd ih =>
    rcases List.mem_cons.1 h with rfl | h
    · exact Or.inr (Bool.eq_false_iff.2 hd)
    · exact ih h

theorem break_not_mem_collapse (cs : List Char) : '\n' ∉ collapse cs := fun h => by
  rcases mem_collapse h with h | h
  · exact absurd h (by decide)
  · exact absurd h (by decide)

/-- Something of the text is to be seen. -/
def HasVisible (cs : List Char) : Prop := ∃ c ∈ cs, isBlank c = false

instance (cs : List Char) : Decidable (HasVisible cs) :=
  List.decidableBEx (fun c => isBlank c = false) cs

theorem not_hasVisible_nil : ¬ HasVisible [] := by
  simp [HasVisible]

theorem hasVisible_cons : HasVisible (c :: cs) ↔ isBlank c = false ∨ HasVisible cs :=
  List.exists_mem_cons_iff _ c cs

theorem hasVisible_append : HasVisible (l ++ r) ↔ HasVisible l ∨ HasVisible r := by
  simp [HasVisible, or_and_right, exists_or]

theorem hasVisible_collapse (cs : List Char) : HasVisible (collapse cs) ↔ HasVisible cs := by
  fun_induction collapse cs with
  | case1 => rfl
  | case2 c h => simp [hasVisible_cons, h, isBlank_space]
  | case3 c h d rest hd ih => simp [ih, hasVisible_cons, h]
  | case4 c h d rest hd ih => simp [hasVisible_cons, ih, h, isBlank_space]
  | case5 c rest h ih => rw [hasVisible_cons, hasVisible_cons, ih]

/-! ## Two blanks side by side -/

/-- A blank inside of a line. -/
def IsGap (c : Char) : Prop := isBlank c = true ∧ c ≠ '\n'

instance (c : Char) : Decidable (IsGap c) := inferInstanceAs (Decidable (_ ∧ _))

/-- No two blanks other than line feeds stand side by side. -/
def SingleSpaced (cs : List Char) : Prop := cs.IsChain fun a b => ¬ (IsGap a ∧ IsGap b)

instance (cs : List Char) : Decidable (SingleSpaced cs) :=
  inferInstanceAs (Decidable (List.IsChain _ cs))

theorem singleSpaced_collapse (cs : List Char) : SingleSpaced (collapse cs) := by
  fun_induction collapse cs with
  | case1 => exact .nil
  | case2 c h => exact .singleton _
  | case3 c h d rest hd ih => exact ih
  | case4 c h d rest hd ih =>
    refine List.isChain_cons.2 ⟨fun e he => ?_, ih⟩
    rintro ⟨-, hgap⟩
    rw [head?_collapse] at he
    obtain rfl : squash d = e := by simpa using he
    rw [IsGap, isBlank_squash] at hgap
    exact hd hgap.1
  | case5 c rest h ih =>
    refine List.isChain_cons.2 ⟨fun e _ => ?_, ih⟩
    rintro ⟨hgap, -⟩
    exact h hgap.1

/-- Blanks meet between two texts that are put together: the first one ends in a blank and the
second one begins with a blank, but in both something is to be seen. -/
structure BlanksMeet (l r : List Char) : Prop where
  before : HasVisible l
  left : ∃ c ∈ l.getLast?, isBlank c = true
  right : ∃ c ∈ r.head?, isBlank c = true
  behind : HasVisible r

instance (l r : List Char) : Decidable (BlanksMeet l r) :=
  decidable_of_iff
    (HasVisible l ∧ l.getLast?.any isBlank = true ∧ r.head?.any isBlank = true ∧ HasVisible r)
    (by
      rw [Option.any_eq_true, Option.any_eq_true]
      exact ⟨fun h => ⟨h.1, h.2.1, h.2.2.1, h.2.2.2⟩,
        fun h => ⟨h.before, h.left, h.right, h.behind⟩⟩)

/-- Around what meets there is something that trimming leaves. -/
theorem BlanksMeet.exists_infix_trim (h : BlanksMeet l r) :
    ∃ front back, front ++ back <:+: trim (l ++ r) ∧ front.getLast? = l.getLast? ∧
      back.head? = r.head? := by
  obtain ⟨x, hx, hxvisible⟩ := h.before
  obtain ⟨y, hy, hyvisible⟩ := h.behind
  obtain ⟨outer, inner, rfl⟩ := List.append_of_mem hx
  obtain ⟨inner', outer', rfl⟩ := List.append_of_mem hy
  refine ⟨x :: inner, inner' ++ [y], ?_, ?_, ?_⟩
  · have htrimmed : Trimmed ((x :: inner) ++ (inner' ++ [y])) := by
      constructor
      · simpa using hxvisible
      · rw [← List.append_assoc, List.getLast?_concat]
        simpa using hyvisible
    exact htrimmed.infix_trim ⟨outer, outer', by simp⟩
  · rw [List.getLast?_append, List.getLast?_cons, Option.some_or]
  · rw [List.head?_append, List.head?_append]
    rfl

/-- **When trimming a line leaves two blanks side by side.** They are there exactly if the line is
put together of two texts between which blanks meet. -/
theorem singleSpaced_trim_iff (h : '\n' ∉ cs) :
    SingleSpaced (trim cs) ↔ ∀ l r, cs = l ++ r → ¬ BlanksMeet l r := by
  constructor
  · rintro hsingle l r rfl hmeet
    obtain ⟨front, back, hinfix, hlast, hhead⟩ := hmeet.exists_infix_trim
    have hkept : SingleSpaced (front ++ back) := hsingle.infix hinfix
    obtain ⟨-, -, hchain⟩ := List.isChain_append.1 hkept
    obtain ⟨a, ha, hablank⟩ := hmeet.left
    obtain ⟨b, hb, hbblank⟩ := hmeet.right
    have hamem : a ∈ l ++ r := List.mem_append_left r (List.mem_of_getLast? ha)
    have hbmem : b ∈ l ++ r := List.mem_append_right l (List.mem_of_mem_head? hb)
    refine hchain a (hlast ▸ ha) b (hhead ▸ hb) ⟨⟨hablank, ?_⟩, hbblank, ?_⟩
    · exact fun hbreak => h (hbreak ▸ hamem)
    · exact fun hbreak => h (hbreak ▸ hbmem)
  · intro hmeet
    rw [SingleSpaced, List.isChain_iff_forall_rel_of_append_cons_cons]
    rintro a b front back htrim ⟨⟨ha, -⟩, hb, -⟩
    have htrimmed : Trimmed (front ++ a :: b :: back) := htrim ▸ trimmed_trim cs
    obtain ⟨outer, outer', hcs⟩ := trim_isInfix cs
    have hsplit : cs = (outer ++ front ++ [a]) ++ (b :: back ++ outer') := by
      rw [← hcs, htrim]
      simp
    -- The two blanks are not at the ends of what is trimmed.
    have hfront : HasVisible front := by
      match front with
      | [] => exact absurd (htrimmed.first a rfl) (by simp [ha])
      | c :: front => exact ⟨c, List.mem_cons_self, htrimmed.first c rfl⟩
    have hback : HasVisible back := by
      rcases List.eq_nil_or_concat' back with rfl | ⟨back, c, rfl⟩
      · exact absurd (htrimmed.last b (by simp)) (by simp [hb])
      · exact ⟨c, by simp, htrimmed.last c (by simp [List.getLast?_cons])⟩
    refine hmeet _ _ hsplit ⟨?_, ⟨a, by simp, ha⟩, ⟨b, by simp, hb⟩, ?_⟩
    · rw [hasVisible_append, hasVisible_append]
      exact Or.inl (Or.inr hfront)
    · rw [List.cons_append, hasVisible_cons, hasVisible_append]
      exact Or.inr (Or.inl hback)

/-! ## Texts in a row -/

theorem head?_flatMap_collapse (ts : List (List Char)) :
    (ts.flatMap collapse).head? = ts.flatten.head?.map squash := by
  induction ts with
  | nil => rfl
  | cons t ts ih =>
    rw [List.flatMap_cons, List.flatten_cons, List.head?_append, List.head?_append, head?_collapse,
      ih, Option.map_or]

theorem getLast?_flatMap_collapse (ts : List (List Char)) :
    (ts.flatMap collapse).getLast? = ts.flatten.getLast?.map squash := by
  induction ts with
  | nil => rfl
  | cons t ts ih =>
    rw [List.flatMap_cons, List.flatten_cons, List.getLast?_append, List.getLast?_append,
      getLast?_collapse, ih, Option.map_or]

theorem hasVisible_flatMap_collapse (ts : List (List Char)) :
    HasVisible (ts.flatMap collapse) ↔ HasVisible ts.flatten := by
  induction ts with
  | nil => rfl
  | cons t ts ih =>
    rw [List.flatMap_cons, List.flatten_cons, hasVisible_append, hasVisible_append,
      hasVisible_collapse, ih]

theorem break_not_mem_flatMap_collapse (ts : List (List Char)) : '\n' ∉ ts.flatMap collapse := by
  intro h
  obtain ⟨t, -, ht⟩ := List.mem_flatMap.1 h
  exact break_not_mem_collapse t ht

/-- Whether blanks meet is seen before the texts are collapsed. -/
theorem blanksMeet_flatMap_collapse (front back : List (List Char)) :
    BlanksMeet (front.flatMap collapse) (back.flatMap collapse) ↔
      BlanksMeet front.flatten back.flatten := by
  have hblank : ∀ o : Option Char,
      (∃ c ∈ o.map squash, isBlank c = true) ↔ ∃ c ∈ o, isBlank c = true := by
    rintro (_ | c) <;> simp
  constructor
  · rintro ⟨hbefore, hleft, hright, hbehind⟩
    rw [getLast?_flatMap_collapse, hblank] at hleft
    rw [head?_flatMap_collapse, hblank] at hright
    exact ⟨(hasVisible_flatMap_collapse front).1 hbefore, hleft, hright,
      (hasVisible_flatMap_collapse back).1 hbehind⟩
  · rintro ⟨hbefore, hleft, hright, hbehind⟩
    rw [← hblank, ← getLast?_flatMap_collapse] at hleft
    rw [← hblank, ← head?_flatMap_collapse] at hright
    exact ⟨(hasVisible_flatMap_collapse front).2 hbefore, hleft, hright,
      (hasVisible_flatMap_collapse back).2 hbehind⟩

/-- A collapsed text has no two blanks side by side, so two blanks side by side in a row of such
texts stand where one of them ends and the next one begins. -/
theorem exists_cut_of_blanks (h : ts.flatMap collapse = l ++ r)
    (hl : ∃ c ∈ l.getLast?, isBlank c = true) (hr : ∃ c ∈ r.head?, isBlank c = true) :
    ∃ front back, ts = front ++ back ∧ front.flatMap collapse = l ∧ back.flatMap collapse = r := by
  induction ts generalizing l with
  | nil =>
    obtain ⟨a, ha, -⟩ := hl
    obtain ⟨rfl, -⟩ := List.append_eq_nil_iff.1 h.symm
    exact absurd ha (by simp)
  | cons t ts ih =>
    rw [List.flatMap_cons] at h
    rcases List.append_eq_append_iff.1 h with ⟨m, rfl, hrest⟩ | ⟨m, ht, rfl⟩
    · rcases eq_or_ne m [] with rfl | hm
      · exact ⟨[t], ts, rfl, by simp, hrest⟩
      · have hlast : ∃ c ∈ m.getLast?, isBlank c = true := by
          rwa [List.getLast?_append_of_ne_nil _ hm] at hl
        obtain ⟨front, back, rfl, rfl, hback⟩ := ih hrest hlast
        exact ⟨t :: front, back, rfl, List.flatMap_cons, hback⟩
    · rcases eq_or_ne m [] with rfl | hm
      · exact ⟨[t], ts, rfl, by simpa using ht, rfl⟩
      · -- Here the two blanks would stand side by side in one collapsed text.
        obtain ⟨a, ha, hablank⟩ := hl
        obtain ⟨b, hb, hbblank⟩ := hr
        rw [List.head?_append_of_ne_nil _ hm] at hb
        have hchain := singleSpaced_collapse t
        rw [SingleSpaced, ht, List.isChain_append] at hchain
        have hgap : ∀ c ∈ l ++ m, isBlank c = true → IsGap c := fun c hc hblank =>
          ⟨hblank, fun hbreak => break_not_mem_collapse t (hbreak ▸ ht ▸ hc)⟩
        have hagap : IsGap a := hgap a (List.mem_append_left m (List.mem_of_getLast? ha)) hablank
        have hbgap : IsGap b := hgap b (List.mem_append_right l (List.mem_of_mem_head? hb)) hbblank
        exact absurd ⟨hagap, hbgap⟩ (hchain.2.2 a ha b hb)

/-- Blanks meet somewhere between two texts of a row. -/
def HasSeam (ts : List (List Char)) : Prop :=
  ∃ i < ts.length, BlanksMeet (ts.take i).flatten (ts.drop i).flatten

instance (ts : List (List Char)) : Decidable (HasSeam ts) :=
  inferInstanceAs (Decidable (∃ i < ts.length, _))

theorem hasSeam_iff :
    HasSeam ts ↔ ∃ front back, ts = front ++ back ∧ BlanksMeet front.flatten back.flatten := by
  constructor
  · rintro ⟨i, -, hmeet⟩
    exact ⟨ts.take i, ts.drop i, (List.take_append_drop i ts).symm, hmeet⟩
  · rintro ⟨front, back, rfl, hmeet⟩
    refine ⟨front.length, ?_, by simpa using hmeet⟩
    have hback : back ≠ [] := by
      rintro rfl
      exact not_hasVisible_nil hmeet.behind
    have hpos : 0 < back.length := List.length_pos_iff.2 hback
    rw [List.length_append]
    omega

/-- **When collapsing each text of a line is not enough.** -/
theorem singleSpaced_trim_flatMap_iff (ts : List (List Char)) :
    SingleSpaced (trim (ts.flatMap collapse)) ↔ ¬ HasSeam ts := by
  rw [singleSpaced_trim_iff (break_not_mem_flatMap_collapse ts), hasSeam_iff]
  constructor
  · rintro hmeet ⟨front, back, rfl, hseam⟩
    exact hmeet _ _ List.flatMap_append ((blanksMeet_flatMap_collapse front back).2 hseam)
  · intro hseam l r h hmeet
    obtain ⟨front, back, rfl, rfl, rfl⟩ := exists_cut_of_blanks h hmeet.left hmeet.right
    exact hseam ⟨front, back, rfl, (blanksMeet_flatMap_collapse front back).1 hmeet⟩

end VCardKit.Text
