/-
  The blanks of a value. What is to be seen of an element is read text by text, as the texts stand
  between its tags, and each text is collapsed where it stands. A value is therefore tidy, but two
  blanks stay side by side at a seam: where a text ends in a blank and the next one on its line
  begins with a blank (`Element.tidy_and_singleSpaced_value_iff`).
-/
import VCardKit.Proofs.Html.Element
import VCardKit.Proofs.Text.Bare
import VCardKit.Proofs.Text.Lines

namespace VCardKit.Html

open VCardKit.Text

/-! ## The texts between the tags -/

/-- What an element shows, from tag to tag: a text as it stands in the page, or a line break. -/
inductive Chunk where
  | text (cs : List Char)
  | lineBreak
  deriving DecidableEq, Repr

/-- What comes of a chunk. -/
def Chunk.shown : Chunk → List Char
  | text cs => collapse cs
  | lineBreak => ['\n']

/-- The texts of each line. -/
def textLines : List Chunk → List (List (List Char))
  | [] => [[]]
  | .text cs :: chunks => (textLines chunks).modifyHead (cs :: ·)
  | .lineBreak :: chunks => [] :: textLines chunks

/-- The chunks of all siblings. What is hidden has none, but what follows it does. -/
def Forest.chunks : Forest → List Chunk
  | nil => []
  | element tag attributes text children tail rest =>
    let e : Element := ⟨tag, attributes, text, children⟩
    let own :=
      if e.tagName = "br" then [.lineBreak]
      else if e.isHidden then []
      else .text text.toList :: children.chunks
    own ++ .text tail.toList :: rest.chunks
  | comment _ tail rest => .text tail.toList :: rest.chunks

theorem Forest.visibleText_eq_flatMap_shown (f : Forest) :
    f.visibleText = f.chunks.flatMap Chunk.shown := by
  induction f with
  | nil => rfl
  | element tag attributes text children tail rest ihc ihr =>
    simp only [visibleText, chunks, List.flatMap_append, List.flatMap_cons, ihc, ihr]
    split <;> [skip; split] <;> simp [Chunk.shown]
  | comment text tail rest ih => rw [visibleText, chunks, List.flatMap_cons, ih]; rfl

theorem linesOf_flatMap_shown (chunks : List Chunk) :
    linesOf (chunks.flatMap Chunk.shown) =
      (textLines chunks).map fun texts => texts.flatMap collapse := by
  induction chunks with
  | nil => rfl
  | cons chunk chunks ih =>
    rw [List.flatMap_cons]
    cases chunk with
    | text cs =>
      rw [Chunk.shown, linesOf_append (break_not_mem_collapse cs), ih, textLines]
      cases textLines chunks <;> rfl
    | lineBreak =>
      rw [textLines, List.map_cons, ← ih]
      rfl

namespace Element

variable {e : Element}

/-- The texts of each line that an element shows. -/
def textLines (e : Element) : List (List (List Char)) :=
  Html.textLines (.text e.text.toList :: e.children.chunks)

theorem linesOf_visibleText (e : Element) :
    linesOf e.visibleText = e.textLines.map fun texts => texts.flatMap collapse := by
  rw [textLines, ← linesOf_flatMap_shown, List.flatMap_cons, ← Forest.visibleText_eq_flatMap_shown]
  rfl

/-! ## Tidy lines -/

variable {cs : List Char}

/-- The lines of a text, each of them trimmed, in one text again. -/
def trimmedLines (cs : List Char) : List Char := ['\n'].intercalate ((linesOf cs).map trim)

theorem tidyLines_eq (cs : List Char) : tidyLines cs = trim (trimmedLines cs) := rfl

theorem tidyLines_isInfix (cs : List Char) : tidyLines cs <:+: framed (trimmedLines cs) := by
  rw [tidyLines_eq]
  exact (trim_isInfix (trimmedLines cs)).trans (infix_framed (trimmedLines cs))

theorem isChain_framed_trimmedLines {R : Char → Char → Prop} :
    (framed (trimmedLines cs)).IsChain R ↔ ∀ line ∈ linesOf cs, (framed (trim line)).IsChain R := by
  have hne : (linesOf cs).map trim ≠ [] := by simpa using linesOf_ne_nil cs
  rw [trimmedLines, isChain_intercalate_iff hne, List.forall_mem_map]

theorem mem_trimmedLines {c : Char} (h : c ∈ trimmedLines cs) : c = '\n' ∨ c ∈ cs := by
  rcases mem_of_mem_intercalate h with h | ⟨trimmed, hmem, hc⟩
  · exact Or.inl (List.mem_singleton.1 h)
  · obtain ⟨line, hline, rfl⟩ := List.mem_map.1 hmem
    exact Or.inr (((trim_isInfix line).trans (infix_of_mem_linesOf hline)).subset hc)

theorem tidy_tidyLines (h : ∀ c ∈ cs, isBlank c = true → c = ' ' ∨ c = '\n') :
    Tidy (tidyLines cs) := by
  have htrimmed : Trimmed (tidyLines cs) := trimmed_trim _
  have hchain : (framed (trimmedLines cs)).IsChain BreakClear := by
    refine isChain_framed_trimmedLines.2 fun line hline => ?_
    have hbreak : '\n' ∉ trim line := fun hmem =>
      break_not_mem_of_mem_linesOf hline ((trim_isInfix line).subset hmem)
    exact (isChain_framed_breakClear_iff hbreak).2 (trimmed_trim line)
  refine ⟨fun c hc hblank => ?_, ?_, htrimmed⟩
  · rcases mem_trimmedLines ((trim_isInfix _).subset hc) with rfl | hmem
    · exact Or.inr rfl
    · exact h c hmem hblank
  · have hinner : (tidyLines cs).IsChain BreakClear := hchain.infix (tidyLines_isInfix cs)
    exact htrimmed.lines_trimmed_iff.2 hinner

theorem singleSpaced_tidyLines :
    SingleSpaced (tidyLines cs) ↔ ∀ line ∈ linesOf cs, SingleSpaced (trim line) := by
  constructor
  · intro h line hline
    have hmem : trim line ∈ (linesOf cs).map trim := List.mem_map_of_mem hline
    exact h.infix ((trimmed_trim line).infix_trim (infix_intercalate hmem))
  · intro h
    have hchain : SingleSpaced (framed (trimmedLines cs)) :=
      isChain_framed_trimmedLines.2 fun line hline => singleSpaced_framed.2 (h line hline)
    exact hchain.infix (tidyLines_isInfix cs)

/-- Two blanks come side by side in a line of what an element shows. -/
def HasSeam (e : Element) : Prop := ∃ texts ∈ e.textLines, Text.HasSeam texts

instance (e : Element) : Decidable e.HasSeam :=
  inferInstanceAs (Decidable (∃ texts ∈ e.textLines, Text.HasSeam texts))

theorem singleSpaced_tidyLines_visibleText :
    SingleSpaced (tidyLines e.visibleText) ↔ ¬ e.HasSeam := by
  rw [singleSpaced_tidyLines, linesOf_visibleText, List.forall_mem_map]
  simp [singleSpaced_trim_flatMap_iff, HasSeam]

/-! ## Values -/

/-- The elements whose own values a value is made of. -/
def sources (e : Element) : List Element :=
  if e.valueParts = [] then [e] else e.valueParts

theorem ownValue_of_no_title (h : e.title? = none) :
    e.ownValue = .ofList (tidyLines e.visibleText) := by
  rw [ownValue, h]

theorem blanks_visibleText {c : Char} (h : c ∈ e.visibleText) (hblank : isBlank c = true) :
    c = ' ' ∨ c = '\n' := by
  rw [visibleText, Forest.visibleText_eq_flatMap_shown, List.mem_append, List.mem_flatMap] at h
  have hcollapse : ∀ {cs : List Char}, c ∈ collapse cs → c = ' ' ∨ c = '\n' := fun hc =>
    Or.inl ((mem_collapse hc).resolve_right (by simp [hblank]))
  rcases h with h | ⟨chunk, -, h⟩
  · exact hcollapse h
  · cases chunk with
    | text cs => exact hcollapse h
    | lineBreak => exact Or.inr (List.mem_singleton.1 h)

theorem tidy_tidyLines_visibleText (e : Element) : Tidy (tidyLines e.visibleText) :=
  tidy_tidyLines fun _ => blanks_visibleText

/-- The texts that the value of an element is put together of. -/
def ownTexts (e : Element) : List (List Char) := e.sources.map fun d => tidyLines d.visibleText

theorem tidy_of_mem_ownTexts {t : List Char} (ht : t ∈ e.ownTexts) : Tidy t := by
  obtain ⟨d, -, rfl⟩ := List.mem_map.1 ht
  exact tidy_tidyLines_visibleText d

/-- What is joined is tidy already, so nothing is stripped off. -/
theorem toList_value (htitle : e.title? = none) (hparts : ∀ d ∈ e.valueParts, d.title? = none) :
    e.value.toList = e.ownTexts.flatten := by
  by_cases hnil : e.valueParts = []
  · have hvalues : e.children.partValues = [] := congrArg (List.map ownValue) hnil
    rw [value_of_no_parts htitle hvalues, ownValue_of_no_title htitle, ownTexts, sources,
      if_pos hnil]
    simp
  · have hne : e.children.partValues ≠ [] := fun hvalues => hnil (List.map_eq_nil_iff.1 hvalues)
    have hjoined : (String.join e.children.partValues).toList = e.ownTexts.flatten := by
      have hvalues : e.children.partValues =
          e.valueParts.map fun d => .ofList (tidyLines d.visibleText) :=
        List.map_congr_left fun d hd => ownValue_of_no_title (hparts d hd)
      rw [hvalues, ownTexts, sources, if_neg hnil, String.toList_join, List.flatMap_map,
        List.flatMap_def]
      simp
    have htrimmed : Trimmed e.ownTexts.flatten :=
      Trimmed.flatten fun t ht => (tidy_of_mem_ownTexts ht).trimmed
    rw [value_of_parts htitle hne, strip, String.toList_ofList, hjoined, htrimmed.trim_eq]

/-- **The blanks of a value.** Where no title is taken, a value has no blanks other than spaces and
line feeds, and none at the ends of its lines; and two blanks stand side by side in it exactly if
there is a seam in what it is made of. -/
theorem tidy_and_singleSpaced_value_iff (htitle : e.title? = none)
    (hparts : ∀ d ∈ e.valueParts, d.title? = none) :
    Tidy e.value.toList ∧
      (SingleSpaced e.value.toList ↔ ∀ d ∈ e.sources, ¬ d.HasSeam) := by
  have htidy : ∀ t ∈ e.ownTexts, Tidy t := fun t ht => tidy_of_mem_ownTexts ht
  have hsingle : SingleSpaced e.ownTexts.flatten ↔ ∀ t ∈ e.ownTexts, SingleSpaced t :=
    singleSpaced_flatten fun t ht => (htidy t ht).trimmed
  rw [toList_value htitle hparts]
  refine ⟨Tidy.flatten htidy, ?_⟩
  rw [hsingle, ownTexts, List.forall_mem_map]
  exact forall_congr' fun d => forall_congr' fun _ => singleSpaced_tidyLines_visibleText

/-- Deleted text and a line break, with a blank on one side of the first and on both sides of the
second. -/
theorem tidy_and_singleSpaced_value_around_break :
    let e : Element :=
      { tag := "div", text := "Hello \n",
        children :=
          .element "del" [] "old " .nil "world " (.element "br" [] "" .nil "  again" .nil) }
    e.title? = none ∧ (∀ d ∈ e.valueParts, d.title? = none) ∧ (∀ d ∈ e.sources, ¬ d.HasSeam) ∧
      e.value = "Hello world\nagain" ∧ Tidy e.value.toList ∧ SingleSpaced e.value.toList := by
  intro e
  have htitle : e.title? = none := by decide
  have hparts : ∀ d ∈ e.valueParts, d.title? = none := by decide
  have hseam : ∀ d ∈ e.sources, ¬ d.HasSeam := by decide
  have hvalue : e.value = "Hello world\nagain" := by decide
  obtain ⟨htidy, hsingle⟩ := tidy_and_singleSpaced_value_iff htitle hparts
  exact ⟨htitle, hparts, hseam, hvalue, htidy, hsingle.2 hseam⟩

/-- A text in bold type that begins with a blank, behind a text that ends in one. -/
theorem not_singleSpaced_value_of_seam :
    let e : Element :=
      { tag := "div", text := "a ", children := .element "b" [] " c" .nil "" .nil }
    e.title? = none ∧ (∀ d ∈ e.valueParts, d.title? = none) ∧ e.HasSeam ∧ e.value = "a  c" ∧
      ¬ SingleSpaced e.value.toList := by
  decide

end Element

end VCardKit.Html
