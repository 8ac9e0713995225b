/-
  What the readers of scalars leave. Each takes something from the front of a text, so what it
  leaves is a suffix of the text (`Leaves`).
-/
import VCardKit.Toml.Timestamp
import Mathlib.Data.List.Infix

namespace VCardKit.Toml

/-- What was found at the front of a text, if anything, leaves a suffix of the text. -/
def Leaves {α : Type} (cs : List Char) (found : Option (Found α)) : Prop :=
  ∀ f, found = some f → f.2 <:+ cs

namespace Leaves

variable {α β : Type} {cs cs' : List Char} {found : Option (Found α)}

theorem none : Leaves cs (none : Option (Found α)) := nofun

theorem some {f : Found α} (h : f.2 <:+ cs) : Leaves cs (some f) := by
  rintro _ ⟨⟩
  exact h

theorem mono (h : Leaves cs' found) (hcs : cs' <:+ cs) : Leaves cs found :=
  fun f hf => (h f hf).trans hcs

theorem cons (h : Leaves cs found) (c : Char) : Leaves (c :: cs) found :=
  h.mono (List.suffix_cons c cs)

theorem map (h : Leaves cs found) {g : Found α → Found β} (hg : ∀ f, (g f).2 <:+ f.2) :
    Leaves cs (found.map g) := by
  intro f hf
  obtain ⟨f', hf', rfl⟩ := Option.map_eq_some_iff.1 hf
  exact (hg f').trans (h f' hf')

theorem bind {o : Option β} {g : β → Option (Found α)} (h : ∀ x, Leaves cs (g x)) :
    Leaves cs (o.bind g) := by
  intro f hf
  obtain ⟨x, -, hx⟩ := Option.bind_eq_some_iff.1 hf
  exact h x f hx

theorem andThen (h : Leaves cs found) {g : Found α → Option (Found β)}
    (hg : ∀ f, Leaves f.2 (g f)) : Leaves cs (found.bind g) := by
  intro f hf
  obtain ⟨f', hf', hg'⟩ := Option.bind_eq_some_iff.1 hf
  exact (hg f' f hg').trans (h f' hf')

end Leaves

theorem skipSpaces_suffix (cs : List Char) : skipSpaces cs <:+ cs := List.dropWhile_suffix _

/-! ## Strings -/

theorem leaves_prepend {cs : List Char} {found : Option (Found (List Char))} (h : Leaves cs found)
    (c : Char) : Leaves cs (prepend c found) :=
  h.map fun _ => List.suffix_rfl

theorem leaves_basicChars (multi joining : Bool) (cs : List Char) :
    Leaves cs (basicChars multi joining cs) := by
  fun_induction basicChars multi joining cs with
  | case1 => exact .none
  | case2 joining rest => exact .some (List.suffix_cons _ rest)
  | case3 joining hmulti rest => exact .some ⟨[_, _, _], rfl⟩
  | case4 joining hmulti rest hquotes ih => exact (leaves_prepend ih _).cons _
  | case5 joining a b c d rest ih =>
    exact .bind fun x => (leaves_prepend ih x).mono ⟨[_, _, _, _, _, _], rfl⟩
  | case6 joining a b c d e f g h rest ih =>
    exact .bind fun x => (leaves_prepend ih x).mono ⟨[_, _, _, _, _, _, _, _, _, _], rfl⟩
  -- Behind a backslash: a line break that is hidden, or an escape of one letter.
  | case7 joining c rest _ _ hbreak ih => exact (ih.cons _).cons _
  | case8 joining c rest _ _ hbreak ih =>
    exact .bind fun x => ((leaves_prepend ih x).cons _).cons _
  | case9 joining c rest _ _ _ _ hblank ih => exact ih.cons _
  | case10 => exact .none
  | case11 joining c rest _ _ _ _ hblank hcontrol ih => exact (leaves_prepend ih _).cons _

theorem leaves_literalChars (multi : Bool) (cs : List Char) :
    Leaves cs (literalChars multi cs) := by
  fun_induction literalChars multi cs with
  | case1 => exact .none
  | case2 rest => exact .some (List.suffix_cons _ rest)
  | case3 hmulti rest => exact .some ⟨[_, _, _], rfl⟩
  | case4 hmulti rest hquotes ih => exact (leaves_prepend ih _).cons _
  | case5 => exact .none
  | case6 c rest _ hcontrol ih => exact (leaves_prepend ih _).cons _

theorem suffix_withQuotes (quote : Char) (found : Found (List Char)) :
    (withQuotes quote found).2 <:+ found.2 :=
  List.drop_suffix _ _

theorem skipBreak_suffix (cs : List Char) : skipBreak cs <:+ cs := by
  unfold skipBreak
  split
  · exact List.suffix_cons _ _
  · exact List.suffix_rfl

theorem leaves_line? (cs : List Char) : Leaves cs (line? cs) := by
  unfold line?
  split
  · next rest =>
    refine .cons (.map (leaves_basicChars false false rest) fun _ => ?_) _
    exact List.suffix_rfl
  · next rest =>
    refine .cons (.map (leaves_literalChars false rest) fun _ => ?_) _
    exact List.suffix_rfl
  · exact .none

theorem leaves_string? (cs : List Char) : Leaves cs (string? cs) := by
  unfold string?
  split
  · next rest =>
    have h := (leaves_basicChars true false (skipBreak rest)).mono (skipBreak_suffix rest)
    exact .mono (.map h (suffix_withQuotes '"')) ⟨[_, _, _], rfl⟩
  · next rest =>
    have h := (leaves_literalChars true (skipBreak rest)).mono (skipBreak_suffix rest)
    exact .mono (.map h (suffix_withQuotes '\'')) ⟨[_, _, _], rfl⟩
  · exact leaves_line? cs

/-! ## Keys -/

theorem leaves_keyPart? (cs : List Char) : Leaves cs (keyPart? cs) := by
  unfold keyPart?
  split
  · exact leaves_line? cs
  · exact .some (List.dropWhile_suffix _)

theorem leaves_key? (fuel : Nat) (cs : List Char) : Leaves cs (key? fuel cs) := by
  induction fuel generalizing cs with
  | zero => exact .none
  | succ fuel ih =>
    refine .andThen (leaves_keyPart? cs) fun ⟨name, rest⟩ => ?_
    have hrest := skipSpaces_suffix rest
    dsimp only
    split
    · next rest' hdot =>
      rw [hdot] at hrest
      have hkey := ((ih (skipSpaces rest')).mono (skipSpaces_suffix rest')).cons '.'
      exact .mono (.andThen hkey fun _ => .some List.suffix_rfl) hrest
    · exact .some hrest

/-! ## Moments -/

theorem leaves_field? (width low high : Nat) (cs : List Char) :
    Leaves cs (field? width low high cs) := by
  unfold field?
  dsimp only
  split
  · exact .some (List.drop_suffix _ _)
  · exact .none

/-- What stands behind a character is a suffix, and so is all that a reader leaves of it. -/
theorem leaves_behind? {α : Type} {mark : Char} {cs : List Char}
    {read : List Char → Option (Found α)} (h : ∀ rest, Leaves rest (read rest)) :
    Leaves cs ((behind? mark cs).bind read) := by
  unfold behind?
  split
  · next c rest =>
    split
    · exact (h rest).cons c
    · exact .none
  · exact .none

theorem leaves_date? (cs : List Char) : Leaves cs (date? cs) :=
  .andThen (leaves_field? 4 0 9999 cs) fun _ =>
    leaves_behind? fun rest => .andThen (leaves_field? 2 1 12 rest) fun _ =>
      leaves_behind? fun rest => .andThen (leaves_field? 2 1 31 rest) fun _ =>
        .some List.suffix_rfl

theorem suffix_micros (cs : List Char) : (micros cs).2 <:+ cs := by
  unfold micros
  split
  · next rest =>
    split
    · exact List.suffix_rfl
    · exact (List.dropWhile_suffix _).trans (List.suffix_cons '.' rest)
  · exact List.suffix_rfl

theorem leaves_hourMinute? (cs : List Char) : Leaves cs (hourMinute? cs) :=
  .andThen (leaves_field? 2 0 23 cs) fun _ =>
    leaves_behind? fun rest => .andThen (leaves_field? 2 0 59 rest) fun _ => .some List.suffix_rfl

theorem leaves_clock? (cs : List Char) : Leaves cs (clock? cs) :=
  .andThen (leaves_hourMinute? cs) fun _ =>
    leaves_behind? fun rest => .andThen (leaves_field? 2 0 59 rest) fun f =>
      .some (suffix_micros f.2)

theorem suffix_offset (cs : List Char) : (offset cs).2 <:+ cs := by
  unfold offset
  split
  · exact List.suffix_rfl
  · next sign rest =>
    split
    · exact List.suffix_cons sign rest
    · split
      · split
        · next found h => exact ((leaves_hourMinute? rest) _ h).trans (List.suffix_cons sign rest)
        · exact List.suffix_rfl
      · exact List.suffix_rfl

theorem suffix_dated (date : Date) (cs : List Char) : (dated date cs).2 <:+ cs := by
  cases cs with
  | nil => exact List.suffix_rfl
  | cons mark rest =>
    unfold dated
    dsimp only
    split
    · next clock behind h =>
      split at h
      · have hclock : behind <:+ rest := leaves_clock? rest _ h
        exact (suffix_offset behind).trans (hclock.trans (List.suffix_cons mark rest))
      · cases h
    · exact List.suffix_rfl

theorem leaves_moment? (cs : List Char) : Leaves cs (moment? cs) := by
  unfold moment?
  split
  · next date rest h => exact .some ((suffix_dated date rest).trans (leaves_date? cs _ h))
  · exact .map (leaves_clock? cs) fun _ => List.suffix_rfl

end VCardKit.Toml
