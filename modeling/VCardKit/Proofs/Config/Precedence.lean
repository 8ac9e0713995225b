/-
  Where a setting comes from. The environment goes before the file and the file before the default
  (`Decides`), but a text that names nothing is an error wherever it stands, also in a file that the
  environment overrides (`NamesNothing`): the file is looked at first, and each text is looked up
  where it is met. So what comes out does not depend on the order in which the four texts are met
  (`load_precedence`).
-/
import VCardKit.Proofs.Config.Files

namespace VCardKit

/-! ## Names -/

namespace Version

/-- A text that names a version, blanks around it ignored. -/
def IsNamed (s : String) (v : Version) : Prop := Text.strip s = v.text

theorem ofText?_eq_some_iff {s : String} {v : Version} : ofText? s = some v ↔ IsNamed s v := by
  rw [ofText?, IsNamed]
  constructor
  · intro h
    have hfound := List.find?_some h
    exact (beq_iff_eq.1 hfound).symm
  · intro h
    rw [h]
    cases v <;> rfl

end Version

namespace Mode

/-- A text that names a mode by its short or its long name; case and blanks around it are
ignored. -/
def IsNamed (s : String) (m : Mode) : Prop :=
  Text.lower (Text.strip s) = m.text ∨ Text.lower (Text.strip s) = m.longText

theorem ofText?_eq_some_iff {s : String} {m : Mode} : ofText? s = some m ↔ IsNamed s m := by
  rw [ofText?, IsNamed]
  generalize Text.lower (Text.strip s) = wanted
  constructor
  · intro h
    have hfound := List.find?_some h
    rw [Bool.or_eq_true, beq_iff_eq, beq_iff_eq] at hfound
    exact hfound.imp Eq.symm Eq.symm
  · rintro (rfl | rfl)
    · cases m <;> rfl
    · cases m <;> rfl

end Mode

namespace Config

/-! ## One setting -/

section

variable {α : Type}

/-- A variable of the environment that is not set. An empty one counts as such. -/
def IsUnset (own : Option String) : Prop := own = none ∨ own = some ""

theorem nonEmpty_eq_none_iff {own : Option String} : nonEmpty own = none ↔ IsUnset own := by
  cases own <;> simp [nonEmpty, IsUnset, Option.filter_eq_none_iff]

theorem nonEmpty_eq_some_iff {own : Option String} {s : String} :
    nonEmpty own = some s ↔ own = some s ∧ s ≠ "" := by
  rw [nonEmpty, Option.filter_eq_some_iff, bne_iff_ne]

/-- The value of a setting, by the source that decides it: the variable of the environment, or else
the file, or else the default. -/
inductive Decides (names : String → α → Prop) (standard : α) :
    Option String → Option String → α → Prop
  | environment {s : String} {file : Option String} {value : α} (hs : s ≠ "")
      (h : names s value) : Decides names standard (some s) file value
  | file {own : Option String} {s : String} {value : α} (hown : IsUnset own) (h : names s value) :
      Decides names standard own (some s) value
  | default {own : Option String} (hown : IsUnset own) : Decides names standard own none standard

/-- Some text that is given for a setting names nothing: in the variable, or in the file. -/
def NamesNothing (names : String → α → Prop) (own file : Option String) : Prop :=
  (∃ s, own = some s ∧ s ≠ "" ∧ ∀ value, ¬ names s value) ∨
    ∃ s, file = some s ∧ ∀ value, ¬ names s value

/-- A step of the loading sets a value: to what a text names, or not at all. -/
def Sets (names : String → α → Prop) (old : α) : Option String → α → Prop
  | none, value => value = old
  | some s, value => names s value

/-- The text of a step names nothing. -/
def Unknown (names : String → α → Prop) (text : Option String) : Prop :=
  ∃ s, text = some s ∧ ∀ value, ¬ names s value

theorem not_unknown_of_sets {names : String → α → Prop} {old value : α} {text : Option String}
    (h : Sets names old text value) : ¬ Unknown names text := by
  rintro ⟨s, rfl, hnothing⟩
  exact hnothing value h

/-- A text is not given, or it is found, or it names nothing. -/
theorem found_or_unknown {names : String → α → Prop} {find : String → Option α}
    (hfind : ∀ s value, find s = some value ↔ names s value) (text : Option String) :
    text = none ∨ (∃ s value, text = some s ∧ find s = some value ∧ names s value) ∨
    ∃ s, text = some s ∧ find s = none ∧ Unknown names text := by
  cases text with
  | none => exact .inl rfl
  | some s =>
    cases hfound : find s with
    | some value => exact .inr (.inl ⟨s, value, rfl, hfound, (hfind s value).1 hfound⟩)
    | none =>
      refine .inr (.inr ⟨s, rfl, hfound, s, rfl, fun value hnamed => ?_⟩)
      cases hfound.symm.trans ((hfind s value).2 hnamed)

theorem decides_of_sets {names : String → α → Prop} {standard middle value : α}
    {own file : Option String} (hfile : Sets names standard file middle)
    (hown : Sets names middle (nonEmpty own) value) : Decides names standard own file value := by
  cases h : nonEmpty own with
  | some s =>
    rw [h] at hown
    obtain ⟨rfl, hs⟩ := nonEmpty_eq_some_iff.1 h
    exact .environment hs hown
  | none =>
    rw [h] at hown
    cases hown
    have hunset := nonEmpty_eq_none_iff.1 h
    cases file with
    | none =>
      cases hfile
      exact .default hunset
    | some s => exact .file hunset hfile

theorem namesNothing_iff {names : String → α → Prop} {own file : Option String} :
    NamesNothing names own file ↔ Unknown names file ∨ Unknown names (nonEmpty own) := by
  simp only [NamesNothing, Unknown, nonEmpty_eq_some_iff, and_assoc]
  exact or_comm

end

/-! ## Loading -/

theorem withVersion_cases (c : Config) (text : Option String) :
    (∃ v, Sets Version.IsNamed c.defaultVersion text v ∧
      c.withVersion text = .ok { c with defaultVersion := v }) ∨
    (Unknown Version.IsNamed text ∧ ∃ e, c.withVersion text = .error e) := by
  rcases found_or_unknown @Version.ofText?_eq_some_iff text with
    rfl | ⟨s, v, rfl, hfound, hnamed⟩ | ⟨s, rfl, hfound, hunknown⟩
  · exact .inl ⟨c.defaultVersion, rfl, rfl⟩
  · exact .inl ⟨v, hnamed, by simp only [withVersion, hfound]⟩
  · exact .inr ⟨hunknown, .unknownVersion s, by simp only [withVersion, hfound]⟩

theorem withMode_cases (c : Config) (text : Option String) :
    (∃ m, Sets Mode.IsNamed c.mode text m ∧ c.withMode text = .ok { c with mode := m }) ∨
    (Unknown Mode.IsNamed text ∧ ∃ e, c.withMode text = .error e) := by
  rcases found_or_unknown @Mode.ofText?_eq_some_iff text with
    rfl | ⟨s, m, rfl, hfound, hnamed⟩ | ⟨s, rfl, hfound, hunknown⟩
  · exact .inl ⟨c.mode, rfl, rfl⟩
  · exact .inl ⟨m, hnamed, by simp only [withMode, hfound]⟩
  · exact .inr ⟨hunknown, .unknownMode s, by simp only [withMode, hfound]⟩

theorem withSettings_cases (c : Config) (version mode : Option String) :
    (∃ v m, Sets Version.IsNamed c.defaultVersion version v ∧ Sets Mode.IsNamed c.mode mode m ∧
      c.withSettings version mode = .ok ⟨v, m⟩) ∨
    ((Unknown Version.IsNamed version ∨ Unknown Mode.IsNamed mode) ∧
      ∃ e, c.withSettings version mode = .error e) := by
  rw [withSettings]
  rcases c.withVersion_cases version with ⟨v, hv, hversion⟩ | ⟨hunknown, e, hversion⟩
  · rw [hversion]
    rcases withMode_cases { c with defaultVersion := v } mode with
      ⟨m, hm, hmode⟩ | ⟨hunknown, e, hmode⟩
    · exact .inl ⟨v, m, hv, hm, hmode⟩
    · exact .inr ⟨.inr hunknown, e, hmode⟩
  · rw [hversion]
    exact .inr ⟨.inl hunknown, e, rfl⟩

theorem mapError_bind {ε ε' β γ : Type} (g : ε → ε') (x : Except ε β) (f : β → Except ε γ) :
    (x >>= f).mapError g = x.mapError g >>= fun b => (f b).mapError g := by
  cases x <;> rfl

/-- The settings of the file come first, and those of the environment are put over them. -/
theorem ofRows_eq {host : Host} {rows : Toml.Rows}
    (hversion : IsWritten host rows "default_version")
    (hmode : IsWritten host rows "compatibility_mode") (env : Environment) :
    ofRows host env rows =
      (({} : Config).withSettings (fileText rows "default_version")
        (fileText rows "compatibility_mode") >>= (·.withEnvironment env)).mapError .config := by
  rw [ofRows, setting?_of_isWritten hversion, setting?_of_isWritten hmode, withSettings, bind_assoc,
    mapError_bind]
  simp only [mapError_bind]
  rfl

/-- The rows that the file to read holds: the given file, or else the one that the environment
names, or else none at all. -/
inductive Supplies (host : Host) (env : Environment) : Option Files.Path → Toml.Rows → Prop
  | given {path : Files.Path} {rows : Toml.Rows} (h : HoldsRows host path rows) :
    Supplies host env (some path) rows
  | named {name : String} {rows : Toml.Rows} (hfile : env.file = some name) (hname : name ≠ "")
      (h : HoldsRows host (.ofString name) rows) : Supplies host env none rows
  | nothing (hfile : IsUnset env.file) : Supplies host env none []

variable {host : Host} {env : Environment} {path : Option Files.Path} {rows : Toml.Rows}

theorem load_of_supplies (h : Supplies host env path rows) :
    load host env path = ofRows host env rows := by
  cases h with
  | given h => exact ofFile_of_holdsRows h env
  | @named name rows hfile hname h =>
    have hsource : source? env none = some (.ofString name) := by
      rw [source?, nonEmpty_eq_some_iff.2 ⟨hfile, hname⟩]
      rfl
    rw [load, hsource]
    exact ofFile_of_holdsRows h env
  | nothing hfile =>
    have hsource : source? env none = none := by
      rw [source?, nonEmpty_eq_none_iff.2 hfile]
      rfl
    rw [load, hsource]
    rfl

/-- Each text that is given names something, and then the two settings are decided; or one names
nothing. -/
theorem load_cases (h : Supplies host env path rows)
    (hversion : IsWritten host rows "default_version")
    (hmode : IsWritten host rows "compatibility_mode") :
    let version := fileText rows "default_version"
    let mode := fileText rows "compatibility_mode"
    (¬ (NamesNothing Version.IsNamed env.version version ∨
        NamesNothing Mode.IsNamed env.mode mode) ∧
      ∃ c, load host env path = .ok c ∧
        Decides Version.IsNamed .v4_0 env.version version c.defaultVersion ∧
        Decides Mode.IsNamed .rfc env.mode mode c.mode) ∨
    ((NamesNothing Version.IsNamed env.version version ∨
        NamesNothing Mode.IsNamed env.mode mode) ∧
      ∃ e, load host env path = .error (.config e)) := by
  intro version mode
  rw [load_of_supplies h, ofRows_eq hversion hmode, namesNothing_iff, namesNothing_iff]
  rcases withSettings_cases {} version mode with ⟨v, m, hv, hm, hfile⟩ | ⟨hunknown, e, hfile⟩
  · rw [hfile]
    -- The settings of the file stand, and the environment is looked at over them.
    rcases withSettings_cases ⟨v, m⟩ (nonEmpty env.version) (nonEmpty env.mode) with
      ⟨v', m', hv', hm', hown⟩ | ⟨hunknown, e, hown⟩
    · refine .inl ⟨?_, ⟨v', m'⟩, congrArg (Except.mapError LoadError.config) hown,
        decides_of_sets hv hv', decides_of_sets hm hm'⟩
      rintro ((h | h) | (h | h))
      · exact not_unknown_of_sets hv h
      · exact not_unknown_of_sets hv' h
      · exact not_unknown_of_sets hm h
      · exact not_unknown_of_sets hm' h
    · exact .inr ⟨hunknown.imp .inr .inr, e, congrArg (Except.mapError LoadError.config) hown⟩
  · rw [hfile]
    -- The file is at fault before the environment is looked at.
    exact .inr ⟨hunknown.imp .inl .inl, e, rfl⟩

/-- **Which source decides a setting.** Let the file to read, which is the given one, or else the
one that the environment names, or else none, be read, at whatever path and on whatever host, and
let its two settings be turned into text, as they are where no integer is too long and the stack has
room (`isWritten_of_fits`). If the loading succeeds, each setting is what the variable of the
environment names, or else what the key of the file names, or else the default. The configuration is
refused exactly if some text that is given, in the file or in the environment, names nothing, also
where it would have been overridden. Nothing else comes out. -/
theorem load_precedence (h : Supplies host env path rows)
    (hversion : IsWritten host rows "default_version")
    (hmode : IsWritten host rows "compatibility_mode") :
    let version := fileText rows "default_version"
    let mode := fileText rows "compatibility_mode"
    (∀ c, load host env path = .ok c →
      Decides Version.IsNamed .v4_0 env.version version c.defaultVersion ∧
      Decides Mode.IsNamed .rfc env.mode mode c.mode) ∧
    ((∃ e, load host env path = .error (.config e)) ↔
      NamesNothing Version.IsNamed env.version version ∨
        NamesNothing Mode.IsNamed env.mode mode) ∧
    ∀ e, load host env path = .error e → ∃ cause, e = .config cause := by
  intro version mode
  rcases load_cases h hversion hmode with
    ⟨hknown, c, hload, hdecides⟩ | ⟨hunknown, e, hload⟩
  · rw [hload]
    refine ⟨?_, ⟨nofun, fun hunknown => absurd hunknown hknown⟩, nofun⟩
    rintro _ ⟨⟩
    exact hdecides
  · rw [hload]
    refine ⟨nofun, ⟨fun _ => hunknown, fun _ => ⟨e, rfl⟩⟩, ?_⟩
    rintro _ ⟨⟩
    exact ⟨e, rfl⟩

/-- The texts that a file gives for the version and for the mode. -/
def settingTexts (rows : Toml.Rows) : Option String × Option String :=
  (fileText rows "default_version", fileText rows "compatibility_mode")

theorem exists_holdsRows {path : Files.Path} {text : String}
    {settings : Option String × Option String} (hpath : IsOpenable path)
    (htext : host.read path = .ok text.toUTF8)
    (hshort : text.toList.length ≤ Toml.safeDigits) (hroom : HasRoomFor host text)
    (h : (Toml.read host.readingRoom text).toOption.map settingTexts = some settings) :
    ∃ rows, HoldsRows host path rows ∧ (∀ key, IsWritten host rows key) ∧
      settingTexts rows = settings := by
  have hyields := hroom.yields (Toml.digitsWithin_of_length_le hshort)
  cases hread : Toml.read host.readingRoom text with
  | error refusal =>
    rw [hread] at h
    cases h
  | ok rows =>
    rw [hread] at h hyields
    cases hyields with
    | ok hwritten => exact ⟨rows, ⟨hpath, text, htext, hread⟩, hwritten, Option.some.inj h⟩

/-- Of two files, one is overridden by a variable, which does not hide the fault in the other. The
first is named from the current directory, the second from the root. -/
theorem load_precedence_overridden :
    let host : Host := .ofTree
      { files := [(["home", "good.toml"],
            "default_version = \" 3.0\\t\"\ncompatibility_mode = \"kde\"".toUTF8),
          (["etc", "bad.toml"], "compatibility_mode = 5".toUTF8)]
        current := ["home", "cards"] }
    let env : Environment :=
      { version := some "", mode := some " I_Phone ", file := some "../good.toml" }
    (∃ c, load host env none = .ok c ∧
      Decides Version.IsNamed .v4_0 (some "") (some " 3.0\t") c.defaultVersion ∧
      Decides Mode.IsNamed .rfc (some " I_Phone ") (some "kde") c.mode) ∧
    ∃ e, load host env (some (.ofString "/etc/bad.toml")) = .error (.config e) := by
  intro host env
  constructor
  · obtain ⟨rows, hrows, hwritten, hsettings⟩ : ∃ rows,
        HoldsRows host (.ofString "../good.toml") rows ∧ (∀ key, IsWritten host rows key) ∧
        settingTexts rows = (some " 3.0\t", some "kde") :=
      exists_holdsRows (by decide) rfl (by decide) (hasRoomFor_ofTree _ (by decide))
        (by decide +kernel)
    obtain ⟨hversion, hmode⟩ := Prod.mk.inj hsettings
    have hsupplies : Supplies host env none rows := .named rfl (by decide) hrows
    have hload : load host env none = .ok ⟨.v3_0, .iPhone⟩ := by
      rw [load_of_supplies hsupplies, ofRows_eq (hwritten _) (hwritten _), hversion, hmode]
      rfl
    have hdecides := (load_precedence hsupplies (hwritten _) (hwritten _)).1 _ hload
    rw [hversion, hmode] at hdecides
    exact ⟨_, hload, hdecides⟩
  · obtain ⟨rows, hrows, hwritten, hsettings⟩ : ∃ rows,
        HoldsRows host (.ofString "/etc/bad.toml") rows ∧ (∀ key, IsWritten host rows key) ∧
        settingTexts rows = (none, some "5") :=
      exists_holdsRows (by decide) rfl (by decide) (hasRoomFor_ofTree _ (by decide))
        (by decide +kernel)
    have hunnamed (m : Mode) : ¬ Mode.IsNamed "5" m := by
      rw [← Mode.ofText?_eq_some_iff]
      cases m <;> decide
    have hmode : fileText rows "compatibility_mode" = some "5" := (Prod.mk.inj hsettings).2
    have hsupplies : Supplies host env (some (.ofString "/etc/bad.toml")) rows := .given hrows
    exact (load_precedence hsupplies (hwritten _) (hwritten _)).2.1.2
      (.inr (.inr ⟨_, hmode, hunnamed⟩))

end Config

end VCardKit
