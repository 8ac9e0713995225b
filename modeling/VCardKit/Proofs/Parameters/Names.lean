/-
  Which names a version allows. Version 2.1 takes the printable ASCII characters but for seven, the
  later versions letters, digits and hyphens, and an empty name is none. Validation finds the
  characters of a stored name wanting exactly if the name is none of these, with one exception: a
  line feed behind an allowed name passes (`disallowedName_mem_iff_not_allowed`).
-/
import VCardKit.Proofs.Parameters.Warnings
import VCardKit.Proofs.Text.Blank

namespace VCardKit.Parameters

/-! ## Allowed names -/

/-- A character that a version allows in a name. -/
def AllowedChar : Version → Char → Prop
  | .v2_1, c => 0x21 ≤ c.toNat ∧ c.toNat ≤ 0x7E ∧ c ∉ ['[', ']', '=', ':', '.', ',', ';']
  | _, c => 'A' ≤ c ∧ c ≤ 'Z' ∨ 'a' ≤ c ∧ c ≤ 'z' ∨ '0' ≤ c ∧ c ≤ '9' ∨ c = '-'

/-- A name with one or more characters, all allowed by a version. -/
def AllowedName (version : Version) (name : String) : Prop :=
  name ≠ "" ∧ ∀ c ∈ name.toList, AllowedChar version c

variable {version : Version}

theorem isAlphanum_iff {c : Char} : c.isAlphanum = true ↔
    'A' ≤ c ∧ c ≤ 'Z' ∨ 'a' ≤ c ∧ c ≤ 'z' ∨ '0' ≤ c ∧ c ≤ '9' := by
  have hranges : c.isAlphanum = (decide ('A' ≤ c ∧ c ≤ 'Z') ||
      (decide ('a' ≤ c) && decide (c ≤ 'z')) || (decide ('0' ≤ c) && decide (c ≤ '9'))) := rfl
  simp only [hranges, Bool.or_eq_true, Bool.and_eq_true, decide_eq_true_eq, or_assoc]

theorem isNameChar_iff {c : Char} : isNameChar version c = true ↔ AllowedChar version c := by
  cases version
  case v2_1 => simp [isNameChar, AllowedChar, reservedChars, and_assoc]
  all_goals simp only [isNameChar, AllowedChar, Bool.or_eq_true, isAlphanum_iff, decide_eq_true_eq,
    or_assoc]

instance (version : Version) : DecidablePred (AllowedChar version) := fun _ =>
  decidable_of_iff _ isNameChar_iff

instance (version : Version) : DecidablePred (AllowedName version) := fun name =>
  have : Decidable (∀ c ∈ name.toList, AllowedChar version c) :=
    List.decidableBAll (AllowedChar version) name.toList
  inferInstanceAs (Decidable (name ≠ "" ∧ ∀ c ∈ name.toList, AllowedChar version c))

/-- No allowed character is a space, a control character or beyond ASCII. -/
theorem AllowedChar.printable {c : Char} (h : AllowedChar version c) :
    0x21 ≤ c.toNat ∧ c.toNat ≤ 0x7E := by
  cases version
  case v2_1 => exact ⟨h.1, h.2.1⟩
  all_goals
    simp only [AllowedChar, Char.le_def, UInt32.le_iff_toNat_le] at h
    rcases h with h | h | h | rfl
    · exact ⟨Nat.le_trans (by decide) h.1, Nat.le_trans h.2 (by decide)⟩
    · exact ⟨Nat.le_trans (by decide) h.1, Nat.le_trans h.2 (by decide)⟩
    · exact ⟨Nat.le_trans (by decide) h.1, Nat.le_trans h.2 (by decide)⟩
    · decide

/-! ## What passes -/

/-- A name passes exactly if it is allowed, or an allowed name with a line feed behind it. -/
theorem isName_iff {name : String} : isName version name = true ↔
    AllowedName version name ∨ ∃ front, AllowedName version front ∧ name = front ++ "\n" := by
  have hchars : ∀ s : String, AllowedName version s ↔
      s.toList ≠ [] ∧ ∀ c ∈ s.toList, AllowedChar version c := fun s => by
    rw [AllowedName, ne_eq, ne_eq, String.toList_eq_nil_iff]
  have hbreak : ∀ cs : List Char, (cs ≠ [] ∧ ∀ c ∈ cs, AllowedChar version c) → '\n' ∉ cs :=
    fun cs h hmem => absurd (h.2 _ hmem).printable.1 (by decide)
  have hname : isName version name = true ↔ Text.withoutBreak name.toList ≠ [] ∧
      ∀ c ∈ Text.withoutBreak name.toList, AllowedChar version c := by
    simp only [isName, Text.withoutBreak, Bool.and_eq_true, Bool.not_eq_true',
      List.isEmpty_eq_false_iff, List.all_eq_true, isNameChar_iff]
  rw [hname, Text.withoutBreak_iff hbreak, hchars]
  refine or_congr Iff.rfl ⟨?_, ?_⟩
  · rintro ⟨cs, hcs, heq⟩
    refine ⟨String.ofList cs, (hchars _).2 (by rwa [String.toList_ofList]), ?_⟩
    rw [← String.toList_inj, heq, String.toList_append, String.toList_ofList]
    rfl
  · rintro ⟨front, hfront, rfl⟩
    exact ⟨front.toList, (hchars _).1 hfront, String.toList_append⟩

/-- **Validation finds all disallowed names but one kind.** The characters of a name are found
wanting exactly if the name is stored, is not allowed by the version and is no allowed name with a
line feed behind it. So a name that passes has printable ASCII characters only, apart from one line
feed that may stand at its end. -/
theorem disallowedName_mem_iff_not_allowed (c : Parameters) (version : Version) (n : String) :
    (disallowedName version n ∈ c.validate version ↔ n ∈ c.names ∧ ¬ AllowedName version n ∧
      ¬ ∃ front, AllowedName version front ∧ n = front ++ "\n") ∧
    (n ∈ c.names → disallowedName version n ∉ c.validate version →
      ∃ front, (n = front ∨ n = front ++ "\n") ∧
        ∀ ch ∈ front.toList, 0x21 ≤ ch.toNat ∧ ch.toNat ≤ 0x7E) := by
  have hiff : disallowedName version n ∈ c.validate version ↔ n ∈ c.names ∧
      ¬ AllowedName version n ∧ ¬ ∃ front, AllowedName version front ∧ n = front ++ "\n" := by
    rw [disallowedName_mem_iff, ← Bool.not_eq_true, isName_iff, not_or]
  refine ⟨hiff, fun hn hpasses => ?_⟩
  have hallowed : AllowedName version n ∨
      ∃ front, AllowedName version front ∧ n = front ++ "\n" := by
    by_contra hnot
    exact hpasses (hiff.2 ⟨hn, not_or.1 hnot⟩)
  rcases hallowed with h | ⟨front, h, rfl⟩
  · exact ⟨n, Or.inl rfl, fun ch hch => (h.2 ch hch).printable⟩
  · exact ⟨front, Or.inr rfl, fun ch hch => (h.2 ch hch).printable⟩

/-- A name in capitals beyond ASCII is found wanting; a name of two lines passes with what stands on
the first. -/
theorem disallowedName_mem_iff_not_allowed_lines :
    let c := ofList [("é", "1"), ("a-b\n", "2")]
    ("É" ∈ c.names ∧ disallowedName .v4_0 "É" ∈ c.validate .v4_0) ∧
      "A-B\n" ∈ c.names ∧ disallowedName .v4_0 "A-B\n" ∉ c.validate .v4_0 ∧
      ∃ front, ("A-B\n" = front ∨ "A-B\n" = front ++ "\n") ∧
        ∀ ch ∈ front.toList, 0x21 ≤ ch.toNat ∧ ch.toNat ≤ 0x7E := by
  intro c
  have hstored : "A-B\n" ∈ c.names := by decide +kernel
  have hpasses : disallowedName .v4_0 "A-B\n" ∉ c.validate .v4_0 := by decide +kernel
  have hwanting : disallowedName .v4_0 "É" ∈ c.validate .v4_0 := by decide +kernel
  exact ⟨⟨((disallowedName_mem_iff_not_allowed c .v4_0 "É").1.1 hwanting).1, hwanting⟩, hstored,
    hpasses, (disallowedName_mem_iff_not_allowed c .v4_0 "A-B\n").2 hstored hpasses⟩

/-- A name of two lines is stored, and neither rule finds it wanting. -/
theorem allows_name_with_break :
    let c := ofList [("X\n", "1")]
    "X\n" ∈ c.names ∧ ¬ AllowedName .v2_1 "X\n" ∧ ¬ AllowedName .v4_0 "X\n" ∧
      disallowedName .v2_1 "X\n" ∉ c.validate .v2_1 ∧
      disallowedName .v4_0 "X\n" ∉ c.validate .v4_0 := by
  decide +kernel

end VCardKit.Parameters
