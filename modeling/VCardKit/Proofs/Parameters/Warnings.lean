/-
  Which warning is about what. A container gives the warnings about its names and its values and no
  others (`mem_validate_iff`), and a warning tells by its text what was found: that a value breaks
  the rules of its name begins with the name, all other warnings begin with another word, and no
  stored name reads like the words that follow in them. So each finding is looked up in the warnings
  by its text (`mem_validate_iff_of_firstWord`, `disallowedName_mem_iff`).
-/
import VCardKit.Parameters.Validation
import VCardKit.Proofs.Parameters.Multimap

namespace VCardKit.Parameters

variable {c : Parameters} {version : Version} {n : String}

/-! ## Names and values -/

theorem key_of_mem_names (h : n ∈ c.names) : key n = n := by
  obtain ⟨e, he, rfl⟩ := List.mem_map.1 h
  exact key_of_mem_entries he

theorem mem_names_of_mem_get {v : String} (hkey : key n = n) (hv : v ∈ c.get n) :
    n ∈ c.names := by
  rw [← hkey, mem_names_iff]
  exact List.ne_nil_of_mem hv

/-- The rows of a container are its names, each with its values. -/
theorem forall_mem_entries_iff {P : String → List String → Prop} :
    (∀ e ∈ c.entries, P e.1 e.2) ↔ ∀ n ∈ c.names, P n (c.get n) := by
  rw [names, Entries.names, List.forall_mem_map]
  exact forall₂_congr fun e he => by rw [get_of_mem_entries he]

theorem exists_mem_entries_iff {P : String → List String → Prop} :
    (∃ e ∈ c.entries, P e.1 e.2) ↔ ∃ n ∈ c.names, P n (c.get n) := by
  rw [← not_iff_not]
  simp only [not_exists, not_and]
  exact forall_mem_entries_iff (P := fun n vs => ¬ P n vs)

theorem mem_validate_iff {w : Warning} : w ∈ c.validate version ↔
    ∃ n ∈ c.names, w ∈ nameWarnings version n ∨ ∃ v ∈ c.get n, w ∈ valueWarnings version n v := by
  rw [validate, List.mem_flatMap, ← exists_mem_entries_iff
    (P := fun n vs => w ∈ nameWarnings version n ∨ ∃ v ∈ vs, w ∈ valueWarnings version n v)]
  simp only [entryWarnings, List.mem_append, List.mem_flatMap]

/-! ## First words -/

/-- The characters of a text before its first space. -/
def firstWord (s : String) : List Char := s.toList.takeWhile (· != ' ')

/-- What follows the first space does not count. -/
theorem firstWord_append {s : String} {word : List Char} (hspace : ' ' ∈ s.toList)
    (hword : firstWord s = word) (t : String) : firstWord (s ++ t) = word := by
  have hlength : (s.toList.takeWhile (· != ' ')).length ≠ s.toList.length := by
    intro hlength
    have hself : s.toList.takeWhile (· != ' ') = s.toList :=
      (List.takeWhile_prefix _).eq_of_length hlength
    have hall : (s.toList.takeWhile (· != ' ')).all (· != ' ') = true := List.all_takeWhile
    rw [hself, List.all_eq_true] at hall
    exact absurd (hall _ hspace) (by decide)
  rw [firstWord, String.toList_append, List.takeWhile_append, if_neg hlength, ← hword, firstWord]

theorem firstWord_of_refused {p : Prop} [Decidable p] {s rest t : String} {word : List Char}
    (hspace : ' ' ∈ s.toList) (hword : firstWord s = word)
    (h : (if p then none else some (s ++ rest)) = some t) : firstWord t = word := by
  split at h
  · cases h
  · cases h
    exact firstWord_append hspace hword rest

/-- What is wrong with a value begins with the name. -/
theorem firstWord_of_valueProblem? {v t : String} (h : valueProblem? version n v = some t) :
    firstWord t = n.toList := by
  unfold valueProblem? at h
  split at h
  · simp only [encodingProblem?, String.append_assoc] at h
    exact firstWord_of_refused (by decide +kernel) (by decide +kernel) h
  · simp only [dataTypeProblem?, String.append_assoc] at h
    split at h
    · exact firstWord_of_refused (by decide +kernel) (by decide +kernel) h
    · exact firstWord_of_refused (by decide +kernel) (by decide +kernel) h
  · simp only [prefProblem?, String.append_assoc] at h
    exact firstWord_of_refused (by decide +kernel) (by decide +kernel) h
  · simp only [indexProblem?, String.append_assoc] at h
    exact firstWord_of_refused (by decide +kernel) (by decide +kernel) h
  · simp only [pidProblem?, String.append_assoc] at h
    exact firstWord_of_refused (by decide +kernel) (by decide +kernel) h
  · simp only [calendarProblem?, String.append_assoc] at h
    exact firstWord_of_refused (by decide +kernel) (by decide +kernel) h
  · cases h

/-! ## The other warnings -/

/-- The warning that a name has characters that the version does not allow. -/
def disallowedName (version : Version) (n : String) : Warning :=
  .parameter ("Parameter name " ++ n ++ " contains characters not allowed in version " ++
    version.text ++ ".")

/-- The warning that only some other versions define a name. -/
def unsupportedName (version : Version) (n : String) (versions : List Version) : Warning :=
  .parameter ("Parameter " ++ n ++ " is not supported by version " ++ version.text ++
    ".  Supported versions are: " ++ Version.listText versions.contains)

/-- The warning that a value of a name has control characters. -/
def controlCharacters (n : String) : Warning :=
  .parameter ("Parameter " ++ n ++ " has a value that contains control characters.")

theorem mem_nameWarnings_iff {w : Warning} : w ∈ nameWarnings version n ↔
    isName version n = false ∧ w = disallowedName version n ∨
      ∃ versions, definedIn.lookup n = some versions ∧ versions.contains version = false ∧
        w = unsupportedName version n versions := by
  rw [nameWarnings, List.mem_append]
  refine or_congr ?_ ?_
  · cases isName version n <;> simp [disallowedName]
  · cases definedIn.lookup n with
    | none => simp
    | some versions => cases h : versions.contains version <;> simp_all [unsupportedName]

theorem mem_valueWarnings_iff {v : String} {w : Warning} : w ∈ valueWarnings version n v ↔
    v.toList.any Text.isControl = true ∧ w = controlCharacters n ∨
      ∃ t, valueProblem? version n v = some t ∧ w = .parameter t := by
  rw [valueWarnings, List.mem_append]
  refine or_congr ?_ ?_
  · cases v.toList.any Text.isControl <;> simp [controlCharacters]
  · simp only [List.mem_map, Option.mem_toList, eq_comm]

theorem firstWord_disallowedName (version : Version) (n : String) :
    firstWord (disallowedName version n).text = "Parameter".toList := by
  simp only [disallowedName, Warning.parameter, String.append_assoc]
  exact firstWord_append (by decide +kernel) (by decide +kernel) _

theorem firstWord_unsupportedName (version : Version) (n : String) (versions : List Version) :
    firstWord (unsupportedName version n versions).text = "Parameter".toList := by
  simp only [unsupportedName, Warning.parameter, String.append_assoc]
  exact firstWord_append (by decide +kernel) (by decide +kernel) _

theorem firstWord_controlCharacters (n : String) :
    firstWord (controlCharacters n).text = "Parameter".toList := by
  simp only [controlCharacters, Warning.parameter, String.append_assoc]
  exact firstWord_append (by decide +kernel) (by decide +kernel) _

theorem firstWord_of_mem_nameWarnings {w : Warning} (h : w ∈ nameWarnings version n) :
    firstWord w.text = "Parameter".toList := by
  rcases mem_nameWarnings_iff.1 h with ⟨-, rfl⟩ | ⟨versions, -, -, rfl⟩
  · exact firstWord_disallowedName version n
  · exact firstWord_unsupportedName version n versions

/-! ## Findings in the warnings -/

theorem ne_parameter_of_key (h : key n = n) : n.toList ≠ "Parameter".toList := by
  intro hn
  rw [String.toList_inj.1 hn] at h
  exact absurd h (by decide +kernel)

/-- A text that begins with a name is among the warnings exactly if it is what is wrong with a value
of the name. -/
theorem mem_validate_iff_of_firstWord {t : String} (hkey : key n = n)
    (ht : firstWord t = n.toList) : Warning.parameter t ∈ c.validate version ↔
      ∃ v ∈ c.get n, valueProblem? version n v = some t := by
  have hne : firstWord t ≠ "Parameter".toList := ht ▸ ne_parameter_of_key hkey
  rw [mem_validate_iff]
  constructor
  · rintro ⟨m, hm, hname | ⟨v, hv, hvalue⟩⟩
    · exact absurd (firstWord_of_mem_nameWarnings hname) hne
    · rcases mem_valueWarnings_iff.1 hvalue with ⟨-, hw⟩ | ⟨t', ht', hw⟩
      · have hword := firstWord_controlCharacters m
        rw [← hw] at hword
        exact absurd hword hne
      · cases hw
        obtain rfl : m = n := by
          rw [← String.toList_inj, ← ht, firstWord_of_valueProblem? ht']
        exact ⟨v, hv, ht'⟩
  · rintro ⟨v, hv, hproblem⟩
    have hwarning := mem_valueWarnings_iff.2 (Or.inr ⟨t, hproblem, rfl⟩)
    exact ⟨n, mem_names_of_mem_get hkey hv, Or.inr ⟨v, hv, hwarning⟩⟩

/-- A rule that refuses values with one text around the value: the text with a value in it is among
the warnings exactly if the name has the value and the rule refuses it. -/
theorem mem_validate_iff_of_refused (n front : String) {back v : String} {ok : String → Bool}
    (hkey : key n = n) (hspace : ' ' ∈ front.toList) (hword : firstWord front = n.toList)
    (hrule : ∀ v, valueProblem? version n v =
      if ok v then none else some (front ++ v ++ back)) :
    Warning.parameter (front ++ v ++ back) ∈ c.validate version ↔ v ∈ c.get n ∧ ok v = false := by
  have hfirst : firstWord (front ++ v ++ back) = n.toList := by
    rw [String.append_assoc]
    exact firstWord_append hspace hword _
  rw [mem_validate_iff_of_firstWord hkey hfirst]
  constructor
  · rintro ⟨u, hu, hproblem⟩
    rw [hrule] at hproblem
    split at hproblem
    · cases hproblem
    · next hok =>
      obtain rfl : u = v := by simpa using hproblem
      exact ⟨hu, Bool.eq_false_iff.2 hok⟩
  · rintro ⟨hv, hok⟩
    exact ⟨v, hv, by rw [hrule, hok]; rfl⟩

/-- No small letter begins a stored name. -/
theorem not_small_of_key (h : key n = n) {cs : List Char} : n.toList ≠ 'n' :: cs := by
  intro hn
  have hmem : 'n' ∈ (key n).toList := by
    rw [h, hn]
    exact List.mem_cons_self
  rw [key, Text.upper, String.toList_ofList] at hmem
  obtain ⟨c, -, hc⟩ := List.mem_flatMap.1 hmem
  exact absurd (Text.isUpper_of_mem_upperChar hc) (by decide)

/-- A warning that goes on with a stored name, and a space behind it, is none about the characters
of a name. -/
theorem disallowedName_ne {m rest : String} (hkey : key m = m) (hrest : firstWord rest = []) :
    disallowedName version n ≠ .parameter ("Parameter " ++ (m ++ rest)) := by
  intro h
  -- The two texts part at the small letter of `name`, which begins no stored name.
  have hopening : "Parameter name " = "Parameter " ++ "name " := by decide +kernel
  simp only [disallowedName, Warning.parameter, Warning.mk.injEq, and_true, hopening,
    String.append_assoc, String.append_right_inj] at h
  have hlist := congrArg String.toList h
  simp only [String.toList_append] at hlist
  cases hm : m.toList with
  | nil =>
    rw [hm, List.nil_append] at hlist
    rw [firstWord, ← hlist] at hrest
    exact absurd hrest (List.cons_ne_nil _ _)
  | cons d ds =>
    rw [hm] at hlist
    have hd : 'n' = d := (List.cons.inj hlist).1
    exact not_small_of_key hkey (hd ▸ hm)

/-- The characters of a name are found wanting exactly if the name is stored and not one of the
version. -/
theorem disallowedName_mem_iff : disallowedName version n ∈ c.validate version ↔
    n ∈ c.names ∧ isName version n = false := by
  rw [mem_validate_iff]
  constructor
  · rintro ⟨m, hm, hname | ⟨v, -, hvalue⟩⟩
    · rcases mem_nameWarnings_iff.1 hname with ⟨hbad, hw⟩ | ⟨versions, -, -, hw⟩
      · obtain rfl : n = m := by simpa [disallowedName, Warning.parameter] using hw
        exact ⟨hm, hbad⟩
      · simp only [unsupportedName, String.append_assoc] at hw
        exact absurd hw (disallowedName_ne (key_of_mem_names hm)
          (firstWord_append (by decide +kernel) (by decide +kernel) _))
    · rcases mem_valueWarnings_iff.1 hvalue with ⟨-, hw⟩ | ⟨t, ht, hw⟩
      · simp only [controlCharacters, String.append_assoc] at hw
        exact absurd hw (disallowedName_ne (key_of_mem_names hm) (by decide +kernel))
      · have hword := firstWord_disallowedName version n
        rw [hw] at hword
        exact absurd ((firstWord_of_valueProblem? ht).symm.trans hword)
          (ne_parameter_of_key (key_of_mem_names hm))
  · rintro ⟨hn, hbad⟩
    exact ⟨n, hn, Or.inl (mem_nameWarnings_iff.2 (Or.inl ⟨hbad, rfl⟩))⟩

end VCardKit.Parameters
