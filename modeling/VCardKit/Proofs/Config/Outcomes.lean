/-
  What comes of loading a file. Faults of the system, of the document and of the two settings are
  reported as faults of the configuration. Others pass by (`Escapes`): a path that holds the
  character NUL, bytes that are not UTF-8, an integer that is too long to be read, values that nest
  too deep to be read, and a setting that is too long or too deep to be turned into text. The
  environment has no part in that. A file in UTF-8 with short numbers, for which the stack has room,
  is always reported (`outcomes_of_files`).
-/
import VCardKit.Proofs.Config.Precedence

namespace VCardKit.Config

open Toml (DigitsWithin safeDigits)

/-- The loading gives a configuration, or says what is wrong with it. -/
inductive IsReported : Except LoadError Config → Prop
  | configured (c : Config) : IsReported (.ok c)
  | refused (cause : ConfigError) : IsReported (.error (.config cause))

theorem isReported_mapError (result : Except ConfigError Config) :
    IsReported (result.mapError .config) := by
  cases result with
  | ok c => exact .configured c
  | error cause => exact .refused cause

variable {host : Host} {path : Files.Path}

/-! ## Rows -/

/-- A setting cannot be turned into text: the version, or the mode behind a version that is
known. -/
inductive Unwritten (host : Host) (rows : Toml.Rows) (cause : Toml.Unwritable) : Prop
  | version (h : LacksText host rows "default_version" cause)
  | mode (hversion : IsWritten host rows "default_version")
    (hknown : ¬ Unknown Version.IsNamed (fileText rows "default_version"))
    (h : LacksText host rows "compatibility_mode" cause)

theorem ofRows_of_unwritten {rows : Toml.Rows} {cause : Toml.Unwritable}
    (h : Unwritten host rows cause) (env : Environment) :
    ofRows host env rows = .error (.unwritable cause) := by
  cases h with
  | version h =>
    rw [ofRows, setting?_of_lacksText h]
    rfl
  | mode hversion hknown h =>
    rw [ofRows, setting?_of_isWritten hversion, setting?_of_lacksText h]
    rcases withVersion_cases {} (fileText rows "default_version") with ⟨v, -, hset⟩ | ⟨hunknown, -⟩
    · simp only [bind, Except.bind, hset]
      rfl
    · exact absurd hunknown hknown

theorem unwritten_or_isReported (host : Host) (env : Environment) (rows : Toml.Rows) :
    (∃ cause, Unwritten host rows cause) ∨ IsReported (ofRows host env rows) := by
  rcases isWritten_or_lacksText host rows "default_version" with hversion | ⟨cause, h⟩
  · rcases isWritten_or_lacksText host rows "compatibility_mode" with hmode | ⟨cause, h⟩
    · rw [ofRows_eq hversion hmode]
      exact .inr (isReported_mapError _)
    · rw [ofRows, setting?_of_isWritten hversion]
      -- The version is looked up before the mode is turned into text, so its fault goes first.
      rcases withVersion_cases {} (fileText rows "default_version") with
        ⟨v, hv, -⟩ | ⟨-, fault, hset⟩
      · exact .inl ⟨cause, .mode hversion (not_unknown_of_sets hv) h⟩
      · simp only [bind, Except.bind, hset]
        exact .inr (.refused fault)
  · exact .inl ⟨cause, .version h⟩

/-! ## Files -/

/-- What ends the loading of a file without being reported, and where it does. -/
inductive Escapes (host : Host) (path : Files.Path) : LoadError → Prop
  | nullInPath (h : ¬ IsOpenable path) : Escapes host path .nullInPath
  | undecodable {bytes : ByteArray} (hpath : IsOpenable path)
    (hbytes : host.read path = .ok bytes) (h : ∀ text : String, bytes ≠ text.toUTF8) :
    Escapes host path .undecodable
  | tooManyDigits {text : String} {count : Nat} (hpath : IsOpenable path)
    (htext : host.read path = .ok text.toUTF8)
    (h : Toml.read host.readingRoom text = .error (.tooManyDigits count)) :
    Escapes host path (.tooManyDigits count)
  | tooDeep {text : String} (hpath : IsOpenable path)
    (htext : host.read path = .ok text.toUTF8)
    (h : Toml.read host.readingRoom text = .error .tooDeep) : Escapes host path .tooDeep
  | unwritable {rows : Toml.Rows} {cause : Toml.Unwritable} (hrows : HoldsRows host path rows)
    (h : Unwritten host rows cause) : Escapes host path (.unwritable cause)

theorem ofFile_of_escapes {e : LoadError} (h : Escapes host path e) (env : Environment) :
    ofFile host env path = .error e := by
  cases h with
  | nullInPath h =>
    rw [ofFile, readRows_of_not_openable h]
    rfl
  | undecodable hpath hbytes h =>
    rw [ofFile, readRows_of_undecodable hpath hbytes h]
    rfl
  | tooManyDigits hpath htext h =>
    rw [ofFile, readRows_of_text hpath htext, rowsOf, h]
    rfl
  | tooDeep hpath htext h =>
    rw [ofFile, readRows_of_text hpath htext, rowsOf, h]
    rfl
  | unwritable hrows h =>
    rw [ofFile_of_holdsRows hrows]
    exact ofRows_of_unwritten h env

theorem not_isReported_of_escapes {e : LoadError} (h : Escapes host path e)
    (env : Environment) : ¬ IsReported (ofFile host env path) := by
  rw [ofFile_of_escapes h env]
  cases h <;> exact nofun

theorem escapes_or_isReported (host : Host) (env : Environment) (path : Files.Path) :
    (∃ e, Escapes host path e) ∨ IsReported (ofFile host env path) := by
  by_cases hpath : IsOpenable path
  · rcases content_cases host path with ⟨cause, h⟩ | ⟨bytes, hbytes, h⟩ | ⟨text, htext⟩
    · rw [ofFile, readRows_of_unreadable hpath h]
      exact .inr (.refused _)
    · exact .inl ⟨_, .undecodable hpath hbytes h⟩
    · cases hread : Toml.read host.readingRoom text with
      | ok rows =>
        have hrows : HoldsRows host path rows := ⟨hpath, text, htext, hread⟩
        rw [ofFile_of_holdsRows hrows]
        refine (unwritten_or_isReported host env rows).imp_left fun hunwritten => ?_
        obtain ⟨cause, h⟩ := hunwritten
        exact ⟨_, .unwritable hrows h⟩
      | error refusal =>
        cases refusal with
        | malformed =>
          rw [ofFile, readRows_of_text hpath htext, rowsOf, hread]
          exact .inr (.refused _)
        | tooManyDigits count => exact .inl ⟨_, .tooManyDigits hpath htext hread⟩
        | tooDeep => exact .inl ⟨_, .tooDeep hpath htext hread⟩
  · exact .inl ⟨_, .nullInPath hpath⟩

/-- What stands at a path, if anything does, is UTF-8, its numbers are short, and the host has room
for what it opens. -/
structure IsPlain (host : Host) (path : Files.Path) : Prop where
  openable : IsOpenable path
  content : ∀ bytes, host.read path = .ok bytes → ∃ text : String, bytes = text.toUTF8 ∧
    DigitsWithin safeDigits text.toList ∧ HasRoomFor host text

namespace IsPlain

theorem yields (h : IsPlain host path) {text : String}
    (htext : host.read path = .ok text.toUTF8) :
    Toml.Yields (fun rows => ∀ key, IsWritten host rows key)
      (Toml.read host.readingRoom text) := by
  obtain ⟨text', heq, hdigits, hroom⟩ := h.content _ htext
  cases String.toByteArray_inj.1 heq
  exact hroom.yields hdigits

/-- A document with short numbers and with room for its values has none that cannot be read, and
none that cannot be turned into text. -/
theorem not_escapes (h : IsPlain host path) (e : LoadError) : ¬ Escapes host path e := by
  intro hescapes
  cases hescapes with
  | nullInPath hpath => exact hpath h.openable
  | undecodable _ hbytes hnot =>
    obtain ⟨text, htext, -⟩ := h.content _ hbytes
    exact hnot text htext
  | tooManyDigits _ htext hread => exact nomatch hread ▸ h.yields htext
  | tooDeep _ htext hread => exact nomatch hread ▸ h.yields htext
  | unwritable hrows hunwritten =>
    obtain ⟨text, htext, hread⟩ := hrows.document
    cases hread ▸ h.yields htext with
    | ok hwritten =>
      cases hunwritten with
      | version hlacks => exact not_lacksText_of_isWritten (hwritten _) _ hlacks
      | mode _ _ hlacks => exact not_lacksText_of_isWritten (hwritten _) _ hlacks

end IsPlain

/-- **What the loading of a file comes to.** On every host, for every path, every content of the
file there and every environment, either something escapes, and then it is what ends the loading, or
there is a configuration or a report of what is wrong with it. Nothing escapes where the content is
UTF-8, no run of digits in it is too long and the stack has room for what it opens. -/
theorem outcomes_of_files (host : Host) (env : Environment) (path : Files.Path) :
    (IsReported (ofFile host env path) ↔ ¬ ∃ e, Escapes host path e) ∧
    (∀ e, Escapes host path e → ofFile host env path = .error e) ∧
    (IsPlain host path → IsReported (ofFile host env path)) := by
  refine ⟨⟨?_, ?_⟩, fun e h => ofFile_of_escapes h env, fun hplain => ?_⟩
  · rintro hreported ⟨e, h⟩
    exact not_isReported_of_escapes h env hreported
  · exact (escapes_or_isReported host env path).resolve_left
  · refine (escapes_or_isReported host env path).resolve_left ?_
    rintro ⟨e, h⟩
    exact hplain.not_escapes e h

/-- A number in a setting is reported. A file that is not UTF-8 ends the loading otherwise, and so
does an array in an array where there is room for one only. -/
theorem outcomes_of_files_short_number :
    let tree : Files.Tree :=
      { files := [(["etc", "short.toml"], "default_version = 5".toUTF8),
          (["etc", "raw.toml"], ⟨#[0x23, 0xC3]⟩), (["etc", "deep.toml"], "a = [[0]]".toUTF8)]
        current := ["etc"] }
    let narrow : Host := { Host.ofTree tree with readingRoom := .ofFrames 2 Host.readingFrames }
    IsReported (ofFile (.ofTree tree) {} (.ofString "/etc/short.toml")) ∧
    ofFile (.ofTree tree) {} (.ofString "../etc/raw.toml") = .error .undecodable ∧
    ofFile narrow {} (.ofString "deep.toml") = .error .tooDeep := by
  intro tree narrow
  have hplain : IsPlain (.ofTree tree) (.ofString "/etc/short.toml") := by
    refine ⟨by decide, ?_⟩
    rintro _ ⟨⟩
    exact ⟨_, rfl, Toml.digitsWithin_of_length_le (by decide), hasRoomFor_ofTree _ (by decide)⟩
  have hraw : Escapes (.ofTree tree) (.ofString "../etc/raw.toml") .undecodable :=
    .undecodable (by decide) rfl (fromUTF8?_eq_none_iff.1 (by decide))
  have hdeep : Escapes narrow (.ofString "deep.toml") .tooDeep := by
    have htext : narrow.read (.ofString "deep.toml") = .ok "a = [[0]]".toUTF8 := rfl
    refine .tooDeep (by decide) htext ?_
    have hread : ((Toml.read narrow.readingRoom "a = [[0]]").map fun _ => ()) =
        .error .tooDeep := by
      decide +kernel
    cases h : Toml.read narrow.readingRoom "a = [[0]]" with
    | ok rows =>
      rw [h] at hread
      cases hread
    | error refusal =>
      rw [h] at hread
      cases hread
      rfl
  exact ⟨(outcomes_of_files _ _ _).2.2 hplain, (outcomes_of_files _ _ _).2.1 _ hraw,
    (outcomes_of_files _ _ _).2.1 _ hdeep⟩

/-- A file of one byte that is not UTF-8 is not reported. -/
theorem not_isReported_of_lone_byte :
    let host : Host := .ofTree { files := [(["bad.toml"], ⟨#[0xFF]⟩)] }
    ¬ IsReported (ofFile host {} (.ofString "bad.toml")) := by
  intro host
  have hend : ofFile host {} (.ofString "bad.toml") = .error .undecodable := by rfl
  rw [hend]
  exact nofun

end VCardKit.Config
