/-
  Documents that are read as a whole. Reading goes forward through the text, and every part of it
  starts at a suffix of the text; so where no run of digits in a document is too long, no number is
  refused for its digits, and every integer that is read can be written again. A value goes deeper
  only at a bracket, at a brace or at a point of a key, so their number bounds how deep the text
  nests and how deep the values do (`read_of_tame`). The readers of values call each other, and one
  step of each is shown under the assumption on all four (`ReadsValues`).
-/
import VCardKit.Proofs.Toml.Numerals
import VCardKit.Toml.Document

namespace VCardKit.Toml

open VCardKit.Text
open Value (Fits)

/-! ## Skipping -/

/-- A reader that gives nothing but what it leaves. -/
def Skips (cs : List Char) : Except Refusal (List Char) → Prop := Yields (· <:+ cs)

theorem Skips.bind {α : Type} {good : α → Prop} {cs : List Char}
    {result : Except Refusal (List Char)} (h : Skips cs result)
    {next : List Char → Except Refusal (Found α)}
    (hnext : ∀ rest, rest <:+ cs → Takes good rest (next rest)) :
    Takes good cs (result >>= next) :=
  Yields.bind h fun rest hrest => (hnext rest hrest).mono hrest

theorem skips_filler (comment : Bool) (cs : List Char) : Skips cs (skipFiller comment cs) := by
  have hcons (c : Char) {rest : List Char} {result : Except Refusal (List Char)}
      (h : Skips rest result) : Skips (c :: rest) result :=
    h.imp fun _ hrest => hrest.trans (List.suffix_cons c rest)
  fun_induction skipFiller comment cs with
  | case1 => exact .ok List.suffix_rfl
  | case2 comment rest ih => exact hcons _ ih
  | case3 => exact .malformed
  | case4 c rest hbreak hcontrol ih => exact hcons c ih
  | case5 comment rest hcomment hbreak ih => exact hcons _ ih
  | case6 comment c rest hbreak hcomment hhash hspace ih => exact hcons c ih
  | case7 => exact .ok List.suffix_rfl

theorem skips_comment (cs : List Char) : Skips cs (skipComment cs) := by
  unfold skipComment
  split
  · split
    · exact .malformed
    · exact .ok ((List.dropWhile_suffix _).trans (List.suffix_cons _ _))
  · exact .ok List.suffix_rfl

/-! ## Descents -/

/-- A character at which values may go one deeper: what opens an array or a table, and the point
between two parts of a key. -/
def isDescent (c : Char) : Bool := c = '[' || c = '\x7b' || c = '.'

/-- The number of places where values may go one deeper. -/
def descents (cs : List Char) : Nat := cs.countP isDescent

theorem descents_le_of_suffix {cs rest : List Char} (h : rest <:+ cs) :
    descents rest ≤ descents cs :=
  h.sublist.countP_le

theorem descents_cons {c : Char} (hc : isDescent c = true) (cs : List Char) :
    descents (c :: cs) = descents cs + 1 :=
  List.countP_cons_of_pos hc

/-- A key has at most one part more than points. -/
theorem length_key?_le {fuel : Nat} {cs : List Char} {f : Found (List String)}
    (h : key? fuel cs = some f) : f.1.length - 1 + descents f.2 ≤ descents cs := by
  induction fuel generalizing cs f with
  | zero => cases h
  | succ fuel ih =>
    obtain ⟨⟨name, rest⟩, hpart, h⟩ := Option.bind_eq_some_iff.1 h
    have hrest := descents_le_of_suffix
      ((skipSpaces_suffix rest).trans (leaves_keyPart? cs _ hpart))
    dsimp only at h
    split at h
    · next rest' hdot =>
      obtain ⟨⟨names, behind⟩, hnames, h⟩ := Option.bind_eq_some_iff.1 h
      cases h
      have hkey := ih hnames
      have hspaces := descents_le_of_suffix (skipSpaces_suffix rest')
      rw [hdot, descents_cons rfl] at hrest
      simp only [List.length_cons] at hkey ⊢
      omega
    · cases h
      simp only [List.length_singleton]
      omega

/-- The names of a key and the value behind it go no deeper than the places before and behind the
sign between them allow. -/
theorem length_key?_add_le {fuel : Nat} {cs : List Char} {key : List String} {c : Char}
    {rest : List Char} (h : key? fuel cs = some (key, c :: rest)) :
    key.length - 1 + descents rest ≤ descents cs := by
  have hkey := length_key?_le h
  have hrest := descents_le_of_suffix (List.suffix_cons c rest)
  dsimp only at hkey
  omega

/-! ## Values -/

/-- A text whose numbers are not too long and in which no more is opened than there is room for,
beside what is open, or than its values may nest. -/
structure Tame (deep n : Nat) (opened : List Container) (cs : List Char) : Prop where
  digits : DigitsWithin safeDigits cs
  room : opened.length + descents cs ≤ deep
  nesting : 2 * descents cs ≤ n

namespace Tame

variable {deep n : Nat} {opened : List Container} {cs rest : List Char}

theorem suffix (h : Tame deep n opened cs) (hrest : rest <:+ cs) : Tame deep n opened rest := by
  have hle := descents_le_of_suffix hrest
  have hroom := h.room
  have hnesting := h.nesting
  exact ⟨h.digits.suffix hrest, by omega, by omega⟩

/-- Behind what opens a container, one more is open and its values have one step less. -/
theorem inside {c : Char} (h : Tame deep n opened (c :: rest)) (hc : isDescent c = true)
    (k : Container) : ∃ m, n = m + 1 ∧ Tame deep m (k :: opened) rest := by
  have hroom := h.room
  have hnesting := h.nesting
  rw [descents_cons hc] at hroom hnesting
  refine ⟨n - 1, by omega, h.digits.suffix (List.suffix_cons c rest), ?_, by omega⟩
  rw [List.length_cons]
  omega

end Tame

/-- The readers of values, with fuel for a number of steps, on tame texts. -/
structure ReadsValues (room : Room (List Char)) (deep fuel : Nat) : Prop where
  value {n : Nat} {opened : List Container} {cs : List Char} (hcs : Tame deep n opened cs) :
    Takes (Fits n) cs (value room fuel opened cs)
  items {n : Nat} {opened : List Container} {cs : List Char} (hcs : Tame deep n opened cs) :
    Takes (fun vs => ∀ v ∈ vs, v.Fits n) cs (items room fuel opened cs)
  table {n : Nat} {opened : List Container} {cs : List Char} (hcs : Tame deep n opened cs) :
    Takes (Rows.Fits n) cs (table room fuel opened cs)
  pairs {n : Nat} {opened : List Container} {cs : List Char} (hcs : Tame deep n opened cs)
    (frozen : Frozen) {rows : Rows} (hrows : rows.Fits n) :
    Takes (Rows.Fits n) cs (pairs room fuel opened frozen rows cs)

theorem takes_string {n : Nat} (cs : List Char) :
    Takes (Fits n) cs
      (match string? cs with
        | some (s, rest) => .ok (.text s, rest)
        | none => .error .malformed) := by
  split
  · next s rest h => exact .found .text (leaves_string? cs _ h)
  · exact .malformed

namespace ReadsValues

variable {room : Room (List Char)} {deep fuel n : Nat} (hroom : room.Holds deep)
  (h : ReadsValues room deep fuel) {opened : List Container} {cs : List Char}
  (hcs : Tame deep n opened cs)

include hroom h hcs in
theorem value_succ : Takes (Fits n) cs (Toml.value room (fuel + 1) opened cs) := by
  have hopened := hcs.room
  unfold Toml.value
  rw [hroom opened cs (by omega)]
  simp only [Bool.not_true, Bool.false_eq_true, if_false]
  split
  · exact takes_string _
  · exact takes_string _
  · exact .found .boolean ⟨[_, _, _, _], rfl⟩
  · exact .found .boolean ⟨[_, _, _, _, _], rfl⟩
  · next rest =>
    obtain ⟨m, rfl, hrest⟩ := hcs.inside rfl .array
    refine .mono ((h.items hrest).bind fun vs rest' hvs _ => ?_) (List.suffix_cons '[' rest)
    exact .found (.array hvs) List.suffix_rfl
  · next rest =>
    obtain ⟨m, rfl, hrest⟩ := hcs.inside rfl .table
    have hspaces := skipSpaces_suffix rest
    refine .mono ((h.table (hrest.suffix hspaces)).bind fun rows rest' hrows _ => ?_)
      (hspaces.trans (List.suffix_cons '\x7b' rest))
    exact .found (.table hrows) List.suffix_rfl
  · split
    · next m rest hm =>
      split
      · exact .found .moment (leaves_moment? cs _ hm)
      · exact .malformed
    · exact takes_number hcs.digits

include h hcs

theorem items_succ :
    Takes (fun vs => ∀ v ∈ vs, v.Fits n) cs (Toml.items room (fuel + 1) opened cs) := by
  unfold Toml.items
  refine (skips_filler false cs).bind fun rest hrest => ?_
  split
  · next rest' => exact .found nofun (List.suffix_cons _ rest')
  · refine (h.value (hcs.suffix hrest)).bind fun v behind hv hbehind => ?_
    refine (skips_filler false behind).bind fun rest' hrest' => ?_
    split
    · next rest'' => exact .found (List.forall_mem_singleton.2 hv) (List.suffix_cons _ rest'')
    · next rest'' =>
      have hsuffix := ((List.suffix_cons ',' rest'').trans hrest').trans (hbehind.trans hrest)
      refine .mono ((h.items (hcs.suffix hsuffix)).bind fun vs rest hvs _ => ?_)
        (List.suffix_cons ',' rest'')
      exact .found (List.forall_mem_cons.2 ⟨hv, hvs⟩) List.suffix_rfl
    · exact .malformed

theorem table_succ : Takes (Rows.Fits n) cs (Toml.table room (fuel + 1) opened cs) := by
  unfold Toml.table
  split
  · next rest => exact .found Rows.fits_nil (List.suffix_cons _ rest)
  · exact h.pairs hcs [] Rows.fits_nil

theorem pairs_succ (frozen : Frozen) {rows : Rows} (hrows : rows.Fits n) :
    Takes (Rows.Fits n) cs (Toml.pairs room (fuel + 1) opened frozen rows cs) := by
  unfold Toml.pairs
  split
  · next key rest hkey =>
    have hrest : rest <:+ cs := (List.suffix_cons '=' rest).trans (leaves_key? _ cs _ hkey)
    have hspaces := (skipSpaces_suffix rest).trans hrest
    have hlength := length_key?_add_le hkey
    have hnesting := hcs.nesting
    have hvalue : Tame deep (2 * descents rest) opened (skipSpaces rest) :=
      { hcs.suffix hspaces with
        nesting := Nat.mul_le_mul_left 2 (descents_le_of_suffix (skipSpaces_suffix rest)) }
    refine .mono ((h.value hvalue).bind fun v behind hv hbehind => ?_) hspaces
    dsimp only
    split
    · exact .malformed
    · next rows' hput =>
      -- A key behind a frozen path puts nothing, so what was put was no such key.
      have hrows' : rows'.Fits n := by
        split at hput
        · cases hput
        · exact Rows.keepsFits_put? key hv n (by omega) _ _ hrows hput
      have hleft := skipSpaces_suffix behind
      split
      · next rest' hclose => exact .found hrows' ((List.suffix_cons _ rest').trans (hclose ▸ hleft))
      · next rest' hcomma =>
        have hrest' := (skipSpaces_suffix rest').trans
          ((List.suffix_cons _ rest').trans (hcomma ▸ hleft))
        exact (h.pairs (hcs.suffix (hrest'.trans (hbehind.trans hspaces))) _ hrows').mono hrest'
      · exact .malformed
  · exact .malformed

end ReadsValues

theorem readsValues {room : Room (List Char)} {deep : Nat} (hroom : room.Holds deep) (fuel : Nat) :
    ReadsValues room deep fuel := by
  induction fuel with
  | zero =>
    have hvalue (opened : List Container) (cs : List Char) :
        Toml.value room 0 opened cs = .error .malformed := by
      rw [Toml.value]
    exact ⟨fun _ => hvalue _ _ ▸ .malformed, fun _ => .malformed, fun _ => .malformed,
      fun _ _ _ _ => .malformed⟩
  | succ fuel ih => exact ⟨ih.value_succ hroom, ih.items_succ, ih.table_succ, ih.pairs_succ⟩

/-! ## Sections -/

/-- A document as far as it was read, in front of a rest: its values fit, and the table that is open
lies no deeper than the places that are gone allow. -/
structure Draft.Within (deep : Nat) (d : Draft) (rest : List Char) : Prop where
  rows : d.rows.Fits (2 * deep)
  current : d.current.length + descents rest ≤ deep

theorem Draft.Within.suffix {deep : Nat} {d : Draft} {cs rest : List Char} (h : d.Within deep cs)
    (hrest : rest <:+ cs) : d.Within deep rest :=
  ⟨h.rows, (Nat.add_le_add_left (descents_le_of_suffix hrest) _).trans h.current⟩

/-- A step of the reading takes a document from the front of a text. -/
def Drafts (deep : Nat) (cs : List Char) : Except Refusal (Found Draft) → Prop :=
  Yields fun f => f.1.Within deep f.2 ∧ f.2 <:+ cs

theorem Drafts.mono {deep : Nat} {cs cs' : List Char} {result : Except Refusal (Found Draft)}
    (h : Drafts deep cs' result) (hcs : cs' <:+ cs) : Drafts deep cs result :=
  Yields.imp h fun _ hf => ⟨hf.1, hf.2.trans hcs⟩

/-- A change of the rows in front of a rest, where the open table lies no deeper than allowed. -/
theorem drafts_withRows {deep least : Nat} {d : Draft} {f : Rows → Option Rows} {rest : List Char}
    (h : d.rows.Fits (2 * deep)) (hcurrent : d.current.length + descents rest ≤ deep)
    (hf : Rows.KeepsFits least f) (hleast : least ≤ 2 * deep) :
    Drafts deep rest (d.withRows (f d.rows) >>= fun d => pure (d, rest)) := by
  unfold Draft.withRows
  split
  · next rows hrows => exact .ok ⟨⟨hf _ hleast _ _ h hrows, hcurrent⟩, List.suffix_rfl⟩
  · exact .malformed

section

variable {deep : Nat} {d : Draft} {rest : List Char} (h : d.rows.Fits (2 * deep))

include h

/-- The table of a header lies no deeper than the header is long. -/
theorem drafts_openTable {path : List String} (hpath : path.length + descents rest ≤ deep) :
    Drafts deep rest (d.openTable path >>= fun d => pure (d, rest)) := by
  unfold Draft.openTable
  dsimp only
  split
  · exact .malformed
  · refine drafts_withRows (by exact h) hpath
      (Rows.keepsFits_modifyAt? Rows.keepsFits_some path) ?_
    omega

theorem drafts_openItem {path : List String} (hpath : path.length + descents rest + 1 ≤ deep) :
    Drafts deep rest (d.openItem path >>= fun d => pure (d, rest)) := by
  unfold Draft.openItem
  dsimp only
  split
  · exact .malformed
  · refine drafts_withRows (by exact h) (Nat.le_of_succ_le hpath)
      (Rows.keepsFits_modifyAt? (Rows.keepsFits_extend? _) path.dropLast) ?_
    rw [List.length_dropLast]
    omega

theorem drafts_assign {key : List String} {n : Nat} {v : Value} (hv : v.Fits n)
    (hcurrent : d.current.length + descents rest ≤ deep)
    (hkey : 2 * (d.current.length + key.length - 1) + n ≤ 2 * deep) :
    Drafts deep rest (d.assign key v >>= fun d => pure (d, rest)) := by
  unfold Draft.assign
  dsimp only
  split
  · exact .malformed
  · refine drafts_withRows (by exact h) hcurrent (Rows.keepsFits_put? (d.current ++ key) hv) ?_
    rwa [List.length_append]

end

/-! ## Documents -/

section

variable {deep : Nat} {d : Draft} {cs : List Char} (h : d.Within deep cs)

include h

theorem drafts_assignment {room : Room (List Char)} (hroom : room.Holds deep)
    (hn : DigitsWithin safeDigits cs) : Drafts deep cs (assignment room d cs) := by
  unfold assignment
  split
  · next key rest hkey =>
    have hrest : rest <:+ cs := (List.suffix_cons '=' rest).trans (leaves_key? _ cs _ hkey)
    have hspaces := (skipSpaces_suffix rest).trans hrest
    have hlength := length_key?_add_le hkey
    have hcurrent := h.current
    have hvalue : Tame deep (2 * descents rest) [] (skipSpaces rest) := by
      have hle := descents_le_of_suffix (skipSpaces_suffix rest)
      have hle' := descents_le_of_suffix hrest
      exact ⟨hn.suffix hspaces, by simp only [List.length_nil]; omega, by omega⟩
    refine Yields.bind ((readsValues hroom _).value hvalue) fun (v, behind) ⟨hv, hbehind⟩ => ?_
    have hbehind' := hbehind.trans hspaces
    refine (drafts_assign h.rows hv (h.suffix hbehind').current ?_).mono hbehind'
    omega
  · exact .malformed

theorem drafts_header (hcs : descents cs + 1 ≤ deep) : Drafts deep cs (header d cs) := by
  unfold header
  dsimp only
  split
  · next key rest hkey =>
    have hrest : rest <:+ skipSpaces cs :=
      (List.suffix_cons _ rest).trans (leaves_key? _ _ _ hkey)
    have hlength := length_key?_add_le hkey
    have hspaces := descents_le_of_suffix (skipSpaces_suffix cs)
    refine (drafts_openTable h.rows ?_).mono (hrest.trans (skipSpaces_suffix cs))
    omega
  · exact .malformed

theorem drafts_itemHeader (hcs : descents cs + 2 ≤ deep) : Drafts deep cs (itemHeader d cs) := by
  unfold itemHeader
  dsimp only
  split
  · next key rest hkey =>
    have hrest : rest <:+ skipSpaces cs :=
      List.IsSuffix.trans ⟨[_, _], rfl⟩ (leaves_key? _ _ _ hkey)
    have hlength := length_key?_add_le hkey
    have hbracket := descents_le_of_suffix (List.suffix_cons ']' rest)
    have hspaces := descents_le_of_suffix (skipSpaces_suffix cs)
    refine (drafts_openItem h.rows ?_).mono (hrest.trans (skipSpaces_suffix cs))
    omega
  · exact .malformed

theorem drafts_statement {room : Room (List Char)} (hroom : room.Holds deep)
    (hn : DigitsWithin safeDigits cs) : Drafts deep cs (statement room d cs) := by
  have hspaces := skipSpaces_suffix cs
  have hwithin := h.suffix hspaces
  have hcurrent := hwithin.current
  unfold statement
  split
  · exact .ok ⟨h.suffix List.nil_suffix, List.nil_suffix⟩
  · next rest hcs =>
    rw [hcs] at hspaces hwithin hcurrent
    rw [descents_cons rfl, descents_cons rfl] at hcurrent
    have hrest : rest <:+ '[' :: '[' :: rest := ⟨[_, _], rfl⟩
    exact (drafts_itemHeader (hwithin.suffix hrest) (by omega)).mono (hrest.trans hspaces)
  · next rest _ hcs =>
    rw [hcs] at hspaces hwithin hcurrent
    rw [descents_cons rfl] at hcurrent
    have hrest := List.suffix_cons '[' rest
    exact (drafts_header (hwithin.suffix hrest) (by omega)).mono (hrest.trans hspaces)
  · next c rest _ _ hcs =>
    rw [hcs] at hspaces hwithin
    split
    · exact .ok ⟨hwithin, hspaces⟩
    · exact (drafts_assignment hwithin hroom (hn.suffix hspaces)).mono hspaces

theorem yields_statements {room : Room (List Char)} (hroom : room.Holds deep) (fuel : Nat)
    (hn : DigitsWithin safeDigits cs) :
    Yields (fun d => d.rows.Fits (2 * deep)) (statements room fuel d cs) := by
  induction fuel generalizing d cs with
  | zero => exact .malformed
  | succ fuel ih =>
    unfold statements
    refine Yields.bind (drafts_statement h hroom hn) fun (d', rest) ⟨hd', hrest⟩ => ?_
    refine Yields.bind (skips_comment (skipSpaces rest)) fun rest' hrest' => ?_
    split
    · exact .ok hd'.rows
    · next rest'' =>
      have hleft := (List.suffix_cons _ rest'').trans (hrest'.trans (skipSpaces_suffix rest))
      exact ih (hd'.suffix hleft) (hn.suffix (hleft.trans hrest))
    · exact .malformed

end

/-! ## Line breaks -/

theorem prefix_of_prefix_joinBreaks {run cs : List Char} (hrun : '\n' ∉ run)
    (h : run <+: joinBreaks cs) : run <+: cs := by
  fun_induction joinBreaks cs generalizing run with
  | case1 => exact h
  | case2 rest ih =>
    rcases List.prefix_cons_iff.1 h with rfl | ⟨run, rfl, -⟩
    · exact List.nil_prefix
    · exact absurd List.mem_cons_self hrun
  | case3 c rest _ ih =>
    rcases List.prefix_cons_iff.1 h with rfl | ⟨run, rfl, hrest⟩
    · exact List.nil_prefix
    · have hrun' : '\n' ∉ run := fun hmem => hrun (List.mem_cons_of_mem c hmem)
      exact (List.prefix_cons_inj c).2 (ih hrun' hrest)

/-- What stands on one line once the line breaks are joined stood so before. -/
theorem infix_of_infix_joinBreaks {run cs : List Char} (hrun : '\n' ∉ run)
    (h : run <:+: joinBreaks cs) : run <:+: cs := by
  fun_induction joinBreaks cs with
  | case1 => exact h
  | case2 rest ih =>
    rcases List.infix_cons_iff.1 h with h | h
    · rcases List.prefix_cons_iff.1 h with rfl | ⟨run, rfl, -⟩
      · exact List.nil_infix
      · exact absurd List.mem_cons_self hrun
    · exact ((ih h).trans (List.infix_cons List.infix_rfl)).trans (List.infix_cons List.infix_rfl)
  | case3 c rest hbreak ih =>
    rcases List.infix_cons_iff.1 h with h | h
    · have hprefix : run <+: joinBreaks (c :: rest) := by rwa [joinBreaks.eq_3 c rest hbreak]
      exact (prefix_of_prefix_joinBreaks hrun hprefix).isInfix
    · exact (ih h).trans (List.infix_cons List.infix_rfl)

theorem DigitsWithin.joinBreaks {n : Nat} {cs : List Char} (h : DigitsWithin n cs) :
    DigitsWithin n (joinBreaks cs) := by
  intro run hinfix hrun
  have hbreak : '\n' ∉ run := by
    intro hmem
    rcases hrun _ hmem with hdigit | hunderscore
    · exact absurd hdigit (by decide)
    · exact absurd hunderscore (by decide)
  exact h run (infix_of_infix_joinBreaks hbreak hinfix) hrun

theorem joinBreaks_sublist (cs : List Char) : (joinBreaks cs).Sublist cs := by
  fun_induction joinBreaks cs with
  | case1 => exact .slnil
  | case2 rest ih => exact (ih.cons_cons '\n').cons '\r'
  | case3 c rest _ ih => exact ih.cons_cons c

/-- **Where no run of digits is too long** and there is room for what the text opens, a document is
read, and then each of its values fits, or it is malformed. -/
theorem read_of_tame {room : Room (List Char)} {text : String}
    (hdigits : DigitsWithin safeDigits text.toList)
    (hroom : room.Holds (descents text.toList)) :
    Yields (Rows.Fits (2 * descents text.toList)) (read room text) := by
  have hstart : ({} : Draft).Within (descents text.toList) (joinBreaks text.toList) := by
    refine ⟨Rows.fits_nil, ?_⟩
    have hle : descents (joinBreaks text.toList) ≤ descents text.toList :=
      (joinBreaks_sublist text.toList).countP_le
    simpa using hle
  exact (yields_statements hstart hroom _ hdigits.joinBreaks).map fun _ hd => hd

end VCardKit.Toml
