/-
  What is read from a path. A path that holds the character NUL opens nothing; what stands at any
  other is no file, or bytes that are not UTF-8, or a text (`content_cases`). A text is read as a
  document, and its values are turned into text key by key. What a path gives and how much room the
  stack has is up to the host, of which nothing is assumed.
-/
import VCardKit.Config.Load
import VCardKit.Proofs.Toml.Document

namespace VCardKit

theorem fromUTF8?_eq_some_iff {bytes : ByteArray} {text : String} :
    String.fromUTF8? bytes = some text ↔ bytes = text.toUTF8 := by
  unfold String.fromUTF8?
  constructor
  · intro h
    split at h
    · cases h
      rfl
    · cases h
  · rintro rfl
    exact dif_pos text.isValidUTF8

theorem fromUTF8?_eq_none_iff {bytes : ByteArray} :
    String.fromUTF8? bytes = none ↔ ∀ text : String, bytes ≠ text.toUTF8 := by
  rw [Option.eq_none_iff_forall_ne_some]
  simp only [ne_eq, fromUTF8?_eq_some_iff]

namespace Config

/-! ## Paths -/

/-- The path can be given to the system, which takes no NUL in a path. -/
def IsOpenable (path : Files.Path) : Prop := '\x00' ∉ path.text.toList

instance (path : Files.Path) : Decidable (IsOpenable path) :=
  inferInstanceAs (Decidable ('\x00' ∉ path.text.toList))

variable {host : Host} {path : Files.Path}

theorem IsOpenable.not_contains (h : IsOpenable path) :
    ¬ path.text.toList.contains '\x00' = true :=
  fun hnull => h (List.contains_iff_mem.1 hnull)

theorem readRows_of_not_openable (h : ¬ IsOpenable path) :
    readRows host path = .error .nullInPath :=
  if_pos (List.contains_iff_mem.2 (Decidable.not_not.1 h))

section

variable (hpath : IsOpenable path)

include hpath

theorem readRows_of_unreadable {cause : Files.ReadError} (h : host.read path = .error cause) :
    readRows host path = .error (.config (.unreadable path cause)) := by
  rw [readRows, if_neg hpath.not_contains, h]

theorem readRows_of_undecodable {bytes : ByteArray} (h : host.read path = .ok bytes)
    (hbytes : ∀ text : String, bytes ≠ text.toUTF8) :
    readRows host path = .error .undecodable := by
  rw [readRows, if_neg hpath.not_contains, h]
  simp only [fromUTF8?_eq_none_iff.2 hbytes]

theorem readRows_of_text {text : String} (h : host.read path = .ok text.toUTF8) :
    readRows host path = rowsOf host path text := by
  have htext : String.fromUTF8? text.toUTF8 = some text := fromUTF8?_eq_some_iff.2 rfl
  rw [readRows, if_neg hpath.not_contains, h]
  simp only [htext]

end

theorem content_cases (host : Host) (path : Files.Path) :
    (∃ cause, host.read path = .error cause) ∨
    (∃ bytes, host.read path = .ok bytes ∧ ∀ text : String, bytes ≠ text.toUTF8) ∨
    ∃ text : String, host.read path = .ok text.toUTF8 := by
  cases host.read path with
  | error cause => exact .inl ⟨cause, rfl⟩
  | ok bytes =>
    by_cases h : ∃ text : String, bytes = text.toUTF8
    · obtain ⟨text, rfl⟩ := h
      exact .inr (.inr ⟨text, rfl⟩)
    · exact .inr (.inl ⟨bytes, rfl, not_exists.1 h⟩)

/-- A file holds the rows: it is there, and it is a well-formed document in UTF-8. -/
structure HoldsRows (host : Host) (path : Files.Path) (rows : Toml.Rows) : Prop where
  openable : IsOpenable path
  document : ∃ text, host.read path = .ok text.toUTF8 ∧
    Toml.read host.readingRoom text = .ok rows

theorem ofFile_of_holdsRows {rows : Toml.Rows} (h : HoldsRows host path rows)
    (env : Environment) : ofFile host env path = ofRows host env rows := by
  obtain ⟨text, hbytes, hread⟩ := h.document
  rw [ofFile, readRows_of_text h.openable hbytes, rowsOf, hread]
  rfl

/-! ## Settings -/

/-- The value under a key of a file as text, if the key is there. -/
def fileText (rows : Toml.Rows) (key : String) : Option String :=
  (rows.lookup key).map Toml.Value.asText

/-- The value under a key of a file, if the key is there, is turned into text. -/
def IsWritten (host : Host) (rows : Toml.Rows) (key : String) : Prop :=
  ∀ v, rows.lookup key = some v → v.toText host.writingRoom = .ok v.asText

/-- The value under a key of a file cannot be turned into text. -/
def LacksText (host : Host) (rows : Toml.Rows) (key : String) (cause : Toml.Unwritable) : Prop :=
  ∃ v, rows.lookup key = some v ∧ v.toText host.writingRoom = .error cause

variable {rows : Toml.Rows} {key : String}

theorem isWritten_of_fits {n : Nat} (hroom : host.writingRoom.Holds n) (h : rows.Fits n) :
    IsWritten host rows key :=
  fun _ hv => (h.of_lookup hv).toText_eq hroom

/-- The host has room for what a text opens, when the text is read and when its values are
written. -/
structure HasRoomFor (host : Host) (text : String) : Prop where
  reading : host.readingRoom.Holds (Toml.descents text.toList)
  writing : host.writingRoom.Holds (2 * Toml.descents text.toList)

/-- The frames of the host with a tree of files are enough for some three hundred descents. -/
theorem hasRoomFor_ofTree (tree : Files.Tree) {text : String}
    (h : Toml.descents text.toList * 3 ≤ Host.frameLimit) :
    HasRoomFor (.ofTree tree) text := by
  refine ⟨Toml.Room.holds_ofFrames (fun k => ?_) h, Toml.Room.holds_ofFrames (fun _ => le_rfl) ?_⟩
  · cases k <;> decide
  · omega

/-- A text with short numbers for which there is room is read, and each of its values is written, or
it is malformed. -/
theorem HasRoomFor.yields {text : String} (h : HasRoomFor host text)
    (hdigits : Toml.DigitsWithin Toml.safeDigits text.toList) :
    Toml.Yields (fun rows => ∀ key, IsWritten host rows key) (Toml.read host.readingRoom text) :=
  (Toml.read_of_tame hdigits h.reading).imp fun _ hfits _ => isWritten_of_fits h.writing hfits

theorem isWritten_or_lacksText (host : Host) (rows : Toml.Rows) (key : String) :
    IsWritten host rows key ∨ ∃ cause, LacksText host rows key cause := by
  cases hv : rows.lookup key with
  | none => exact .inl fun v hsome => by cases hv.symm.trans hsome
  | some v =>
    cases htext : v.toText host.writingRoom with
    | error cause => exact .inr ⟨cause, v, hv, htext⟩
    | ok s =>
      refine .inl fun v' hv' => ?_
      cases hv.symm.trans hv'
      rw [htext, Toml.Value.toText_eq_ok htext]

theorem not_lacksText_of_isWritten (h : IsWritten host rows key) (cause : Toml.Unwritable) :
    ¬ LacksText host rows key cause := by
  rintro ⟨v, hv, htext⟩
  cases htext.symm.trans (h v hv)

theorem setting?_of_isWritten (h : IsWritten host rows key) :
    setting? host rows key = .ok (fileText rows key) := by
  rw [setting?, fileText]
  cases hv : rows.lookup key with
  | none => rfl
  | some v =>
    simp only [h v hv]
    rfl

theorem setting?_of_lacksText {cause : Toml.Unwritable} (h : LacksText host rows key cause) :
    setting? host rows key = .error (.unwritable cause) := by
  obtain ⟨v, hv, htext⟩ := h
  rw [setting?, hv]
  simp only [htext]
  rfl

end Config

end VCardKit
