/-
  Property identifiers. A well-formed identifier is one run of digits, or two with a point between
  them, perhaps with a line feed behind; validation reports the other values and reading leaves them
  out (`malformedPid_mem_iff`, `pidDigits?_eq_some_iff`). So reading gives the numbers of the values
  that validation lets pass, in their order, unless one of them is too long; and an identifier that
  is added is one of these and comes last (`pids_eq_wellFormed`).
-/
import VCardKit.Parameters.Change
import VCardKit.Proofs.Decimal.Integer
import VCardKit.Proofs.Parameters.Warnings
import Mathlib.Data.List.Forall2

namespace VCardKit.Parameters

open Text (Digits)

/-! ## The form of an identifier -/

/-- A property identifier in one line: the digits of the local number, and those of the source
number behind a point if there is one. -/
inductive PidLine : List Char → List Nat × Option (List Nat) → Prop
  | single {cs : List Char} {vs : List Nat} (h : Digits cs vs) : PidLine cs (vs, none)
  | pair {cs ds : List Char} {vs ws : List Nat} (h : Digits cs vs) (h' : Digits ds ws) :
    PidLine (cs ++ '.' :: ds) (vs, some ws)

/-- A property identifier with the given digits. One line feed may stand behind. -/
def IsPid (v : String) (digits : List Nat × Option (List Nat)) : Prop :=
  PidLine v.toList digits ∨ ∃ cs, PidLine cs digits ∧ v.toList = cs ++ ['\n']

theorem PidLine.mem {cs : List Char} {digits : List Nat × Option (List Nat)}
    (h : PidLine cs digits) : ∀ c ∈ cs, Text.isDigit c = true ∨ c = '.' := by
  cases h with
  | single h => exact fun c hc => Or.inl (h.isDigit c hc)
  | pair h h' =>
    intro c hc
    rcases List.mem_append.1 hc with hc | hc
    · exact Or.inl (h.isDigit c hc)
    · rcases List.mem_cons.1 hc with rfl | hc
      · exact Or.inr rfl
      · exact Or.inl (h'.isDigit c hc)

theorem PidLine.not_mem_break {cs : List Char} {digits : List Nat × Option (List Nat)}
    (h : PidLine cs digits) : '\n' ∉ cs := by
  intro hmem
  rcases h.mem _ hmem with h | h
  · exact absurd h (by decide)
  · exact absurd h (by decide)

theorem pidDigits?_eq_some_iff {v : String} {digits : List Nat × Option (List Nat)} :
    pidDigits? v = some digits ↔ IsPid v digits := by
  rw [IsPid, ← Text.withoutBreak_iff fun _ => PidLine.not_mem_break]
  simp only [pidDigits?, ← Text.withoutBreak.eq_1]
  generalize Text.withoutBreak v.toList = cs
  constructor
  · intro h
    -- The first digits are the local number, and what is left of them decides the form.
    have hall : ∀ c ∈ cs.takeWhile Text.isDigit, Text.isDigit c = true :=
      List.all_eq_true.1 List.all_takeWhile
    have hcs : cs.takeWhile Text.isDigit ++ cs.dropWhile Text.isDigit = cs :=
      List.takeWhile_append_dropWhile
    split at h
    · cases h
    · next hdigits =>
      have hne : cs.takeWhile Text.isDigit ≠ [] := fun hnil => hdigits (by rw [hnil]; rfl)
      have hlocal := Digits.of_isDigit hne hall
      split at h
      · next hrest =>
        cases h
        rw [hrest, List.append_nil] at hcs
        rw [hcs] at hlocal ⊢
        exact .single hlocal
      · next rest hrest =>
        split at h
        · next hsource =>
          cases h
          simp only [Bool.and_eq_true, Bool.not_eq_true', List.isEmpty_eq_false_iff,
            List.all_eq_true] at hsource
          have hpair := PidLine.pair hlocal (.of_isDigit hsource.1 hsource.2)
          rwa [← hrest, hcs] at hpair
        · cases h
      · cases h
  · intro h
    cases h with
    | single h =>
      have hend : ∀ c ∈ ([] : List Char).head?, Text.isDigit c = false := by simp
      obtain ⟨hfirst, hrest⟩ := h.takeWhile_append hend
      rw [List.append_nil] at hfirst hrest
      rw [hfirst, hrest, h.filterMap_eq, if_neg (by simpa using h.values_ne_nil)]
    | @pair _ ds _ _ h h' =>
      have hpoint : ∀ c ∈ ('.' :: ds).head?, Text.isDigit c = false := fun c hc => by
        obtain rfl : '.' = c := by simpa using hc
        decide
      obtain ⟨hfirst, hrest⟩ := h.takeWhile_append hpoint
      have hsource : (!ds.isEmpty && ds.all Text.isDigit) = true := by
        simpa using ⟨h'.ne_nil, h'.isDigit⟩
      rw [hfirst, hrest, h.filterMap_eq, if_neg (by simpa using h.values_ne_nil)]
      exact (if_pos hsource).trans (by rw [h'.filterMap_eq])

/-! ## Reported values -/

/-- The warning that a value is no property identifier. -/
def malformedPid (v : String) : Warning :=
  .parameter ("PID value \"" ++ v ++
    "\" is not in the form <local-id> or <local-id>.<clientpidmap-ref>.")

theorem malformedPid_mem_iff {c : Parameters} {version : Version} {v : String} :
    malformedPid v ∈ c.validate version ↔ v ∈ c.get "PID" ∧ pidDigits? v = none := by
  have hrefused : malformedPid v ∈ c.validate version ↔
      v ∈ c.get "PID" ∧ (pidDigits? v).isSome = false :=
    mem_validate_iff_of_refused "PID" "PID value \"" (by decide +kernel) (by decide +kernel)
      (by decide +kernel) fun _ => rfl
  rwa [Option.isSome_eq_false_iff, Option.isNone_iff_eq_none] at hrefused

/-- The property identifiers that validation lets pass, in their order. -/
def wellFormedPids (c : Parameters) (version : Version) : List String :=
  (c.get "PID").filter fun v => malformedPid v ∉ c.validate version

theorem wellFormedPids_eq (c : Parameters) (version : Version) :
    c.wellFormedPids version = (c.get "PID").filter fun v => (pidDigits? v).isSome := by
  refine List.filter_congr fun v hv => ?_
  rw [← Bool.coe_iff_coe, decide_eq_true_iff, malformedPid_mem_iff, Option.isSome_iff_ne_none]
  exact ⟨fun h hnone => h ⟨hv, hnone⟩, fun h hreported => h hreported.2⟩

/-! ## Reading one by one -/

section

variable {α β γ ε : Type} {f : α → Option β} {g : β → Except ε γ}

/-- Members that are left out leave no trace; the others are read in their order. -/
theorem forall₂_of_mapM_filterMap {as : List α} {cs : List γ}
    (h : (as.filterMap f).mapM g = .ok cs) :
    List.Forall₂ (fun a c => ∃ b, f a = some b ∧ g b = .ok c)
      (as.filter fun a => (f a).isSome) cs := by
  induction as generalizing cs with
  | nil =>
    cases h
    exact .nil
  | cons a as ih =>
    cases ha : f a with
    | none =>
      rw [List.filterMap_cons_none ha] at h
      rw [List.filter_cons_of_neg (by simp [ha])]
      exact ih h
    | some b =>
      rw [List.filterMap_cons_some ha, List.mapM_cons] at h
      rw [List.filter_cons_of_pos (by simp [ha])]
      cases hb : g b with
      | error e => simp [hb, bind, Except.bind] at h
      | ok c =>
        cases hcs : (as.filterMap f).mapM g with
        | error e => simp [hb, hcs, bind, Except.bind] at h
        | ok cs' =>
          simp only [hb, hcs, bind, Except.bind, pure, Except.pure, Except.ok.injEq] at h
          exact h ▸ .cons ⟨b, ha, hb⟩ (ih hcs)

theorem exists_of_mapM_error {bs : List β} {e : ε} (h : bs.mapM g = .error e) :
    ∃ b ∈ bs, g b = .error e := by
  induction bs with
  | nil => cases h
  | cons b bs ih =>
    rw [List.mapM_cons] at h
    cases hb : g b with
    | error e' =>
      simp only [hb, bind, Except.bind, Except.error.injEq] at h
      exact ⟨b, List.mem_cons_self, h ▸ hb⟩
    | ok c =>
      cases hcs : bs.mapM g with
      | error e' =>
        simp only [hb, hcs, bind, Except.bind, Except.error.injEq] at h
        obtain ⟨b', hb', he⟩ := ih (h ▸ hcs)
        exact ⟨b', List.mem_cons_of_mem _ hb', he⟩
      | ok cs => simp [hb, hcs, bind, Except.bind, pure, Except.pure] at h

end

/-! ## The numbers of an identifier -/

variable {digits : List Nat × Option (List Nat)}

/-- The digits of both numbers of an identifier, or of its only one. -/
def pidRuns (digits : List Nat × Option (List Nat)) : List (List Nat) :=
  digits.1 :: digits.2.toList

/-- The two numbers with the given digits; without a point the second is missing. -/
def pidPair (digits : List Nat × Option (List Nat)) : Nat × Option Nat :=
  (Decimal.ofDigits digits.1, digits.2.map Decimal.ofDigits)

/-- A run of digits that is too long to be read. -/
def tooLong (ds : List Nat) : Bool := Decimal.digitLimit < ds.length

theorem pidNumber_eq (ds : List Nat) : pidNumber ds =
    if tooLong ds then .error (.tooManyDigits ds.length) else .ok (Decimal.ofDigits ds) := by
  by_cases h : ds.length ≤ Decimal.digitLimit
  · have hshort : tooLong ds = false := decide_eq_false (Nat.not_lt.2 h)
    rw [pidNumber, if_pos h, hshort]
    rfl
  · have hlong : tooLong ds = true := decide_eq_true (Nat.lt_of_not_le h)
    rw [pidNumber, if_neg h, hlong]
    rfl

/-- The first number that is too long is refused; otherwise both are read. -/
theorem pidNumbers_eq (digits : List Nat × Option (List Nat)) : pidNumbers digits =
    match (pidRuns digits).find? tooLong with
    | some ds => .error (.tooManyDigits ds.length)
    | none => .ok (pidPair digits) := by
  obtain ⟨ds, source⟩ := digits
  cases hlocal : tooLong ds with
  | true => simp [pidNumbers, pidNumber_eq, pidRuns, hlocal, bind, Except.bind]
  | false =>
    cases source with
    | none =>
      simp [pidNumbers, pidNumber_eq, pidRuns, pidPair, hlocal, bind, Except.bind, pure,
        Except.pure]
    | some ws =>
      cases hsource : tooLong ws <;>
        simp [pidNumbers, pidNumber_eq, pidRuns, pidPair, hlocal, hsource, bind, Except.bind, pure,
          Except.pure]

theorem pidNumbers_eq_ok_iff {p : Nat × Option Nat} : pidNumbers digits = .ok p ↔
    (∀ ds ∈ pidRuns digits, ds.length ≤ Decimal.digitLimit) ∧ pidPair digits = p := by
  rw [pidNumbers_eq]
  cases hfound : (pidRuns digits).find? tooLong with
  | none =>
    rw [List.find?_eq_none] at hfound
    have hshort : ∀ ds ∈ pidRuns digits, ds.length ≤ Decimal.digitLimit := fun ds hds => by
      simpa [tooLong] using hfound ds hds
    exact ⟨fun h => ⟨hshort, Except.ok.inj h⟩, fun h => congrArg Except.ok h.2⟩
  | some ds =>
    have hlong : Decimal.digitLimit < ds.length := by
      simpa [tooLong] using List.find?_some hfound
    have hmem := List.mem_of_find?_eq_some hfound
    simp only [reduceCtorEq, false_iff, not_and]
    exact fun h => absurd (h ds hmem) (Nat.not_le.2 hlong)

theorem of_pidNumbers_eq_error {e : ParameterError} (h : pidNumbers digits = .error e) :
    ∃ ds ∈ pidRuns digits, Decimal.digitLimit < ds.length ∧ e = .tooManyDigits ds.length := by
  rw [pidNumbers_eq] at h
  split at h
  · next ds hfound =>
    have hlong : Decimal.digitLimit < ds.length := by
      simpa [tooLong] using List.find?_some hfound
    exact ⟨ds, List.mem_of_find?_eq_some hfound, hlong, (Except.error.inj h).symm⟩
  · cases h

/-! ## Written identifiers -/

/-- The text of an identifier. -/
def writtenPid (n : Nat) : Option Nat → String
  | none => toString (n : Int)
  | some m => toString (n : Int) ++ "." ++ toString (m : Int)

/-- A number below the limit is written. -/
theorem numberText_eq {n : Int} (h : n.natAbs < 10 ^ Decimal.digitLimit) :
    numberText n = .ok (toString n) := by
  rw [numberText, if_pos (Decimal.isWritable_iff.2 h)]

theorem pidText_eq {n : Nat} {source : Option Nat} (hn : n < 10 ^ Decimal.digitLimit)
    (hsource : ∀ m ∈ source, m < 10 ^ Decimal.digitLimit) :
    pidText n (source.map Int.ofNat) = .ok (writtenPid n source) := by
  have hfirst : numberText n = .ok (toString (n : Int)) := numberText_eq hn
  rw [pidText, hfirst]
  cases source with
  | none => rfl
  | some m =>
    have hsecond : numberText (Int.ofNat m) = .ok (toString (m : Int)) :=
      numberText_eq (hsource m rfl)
    simp only [Option.map_some, hsecond]
    rfl

/-- What is written for an identifier is one, with the digits of its numbers. -/
theorem isPid_writtenPid (n : Nat) (source : Option Nat) :
    IsPid (writtenPid n source) (Decimal.digitsOf n, source.map Decimal.digitsOf) := by
  cases source with
  | none =>
    have hline := PidLine.single (Decimal.digits_toDigits n)
    rw [← Decimal.toList_toString] at hline
    exact Or.inl hline
  | some m =>
    have hline := PidLine.pair (Decimal.digits_toDigits n) (Decimal.digits_toDigits m)
    have htext : (writtenPid n (some m)).toList =
        Nat.toDigits 10 n ++ '.' :: Nat.toDigits 10 m := by
      rw [writtenPid, String.toList_append, String.toList_append, Decimal.toList_toString,
        Decimal.toList_toString, List.append_assoc]
      rfl
    exact Or.inl (htext ▸ hline)

theorem pidDigits?_writtenPid (n : Nat) (source : Option Nat) :
    pidDigits? (writtenPid n source) = some (Decimal.digitsOf n, source.map Decimal.digitsOf) :=
  pidDigits?_eq_some_iff.2 (isPid_writtenPid n source)

/-- Numbers below the limit are read back. -/
theorem pidNumbers_digitsOf {n : Nat} {source : Option Nat} (hn : n < 10 ^ Decimal.digitLimit)
    (hsource : ∀ m ∈ source, m < 10 ^ Decimal.digitLimit) :
    pidNumbers (Decimal.digitsOf n, source.map Decimal.digitsOf) = .ok (n, source) := by
  rw [pidNumbers_eq_ok_iff]
  constructor
  · intro ds hds
    rcases List.mem_cons.1 hds with rfl | hds
    · exact Decimal.length_digitsOf_le_iff.2 hn
    · obtain ⟨m, hm, rfl⟩ := Option.map_eq_some_iff.1 (Option.mem_toList.1 hds)
      exact Decimal.length_digitsOf_le_iff.2 (hsource m hm)
  · rw [pidPair, Decimal.ofDigits_digitsOf, Option.map_map]
    have hid : Decimal.ofDigits ∘ Decimal.digitsOf = id := funext Decimal.ofDigits_digitsOf
    rw [hid, Option.map_id, id]

/-! ## Containers -/

variable {c : Parameters} {version : Version}

/-- A property identifier that has a number of `k` digits. -/
def HasNumber (v : String) (k : Nat) : Prop :=
  ∃ digits, IsPid v digits ∧ ∃ ds ∈ pidRuns digits, ds.length = k

/-- A property identifier that stands for one number or two. -/
def StandsFor (v : String) (p : Nat × Option Nat) : Prop :=
  ∃ digits, IsPid v digits ∧ pidPair digits = p

/-- Reading fails at a value with a number that is too long. -/
theorem exists_of_pids_error {e : ParameterError} (h : c.pids = .error e) :
    ∃ k, e = .tooManyDigits k ∧ Decimal.digitLimit < k ∧
      ∃ v ∈ c.wellFormedPids version, HasNumber v k := by
  obtain ⟨digits, hdigits, hfails⟩ := exists_of_mapM_error h
  obtain ⟨v, hv, hread⟩ := List.mem_filterMap.1 hdigits
  obtain ⟨ds, hds, hlong, rfl⟩ := of_pidNumbers_eq_error hfails
  refine ⟨ds.length, rfl, hlong, v, ?_, digits, pidDigits?_eq_some_iff.1 hread, ds, hds, rfl⟩
  rw [wellFormedPids_eq, List.mem_filter, hread]
  exact ⟨hv, rfl⟩

/-- Reading gives the numbers of the well-formed values, none of which is too long. -/
theorem of_pids_ok {ps : List (Nat × Option Nat)} (h : c.pids = .ok ps) :
    (∀ v ∈ c.wellFormedPids version, ∀ k, HasNumber v k → k ≤ Decimal.digitLimit) ∧
      List.Forall₂ StandsFor (c.wellFormedPids version) ps := by
  have hread := forall₂_of_mapM_filterMap h
  rw [← wellFormedPids_eq c version] at hread
  rw [← List.forall₂_and_left]
  refine hread.imp ?_
  rintro v p ⟨digits, hdigits, hnumbers⟩
  obtain ⟨hshort, hpair⟩ := pidNumbers_eq_ok_iff.1 hnumbers
  refine ⟨?_, digits, pidDigits?_eq_some_iff.1 hdigits, hpair⟩
  rintro k ⟨digits', hdigits', ds, hds, rfl⟩
  rw [← pidDigits?_eq_some_iff, hdigits, Option.some.injEq] at hdigits'
  exact hshort ds (hdigits' ▸ hds)

/-- Adding an identifier. -/
def addPid (c : Parameters) (n : Nat) (source : Option Nat) :
    Attempt ParameterError Parameters Answer :=
  c.change (.set (.addPid n (source.map Int.ofNat)))

/-- What adding an identifier does: it succeeds, its numbers come last, the value that is written
for it passes, and nothing else changes. -/
structure AddsPid (c : Parameters) (n : Nat) (source : Option Nat) (ps : List (Nat × Option Nat)) :
    Prop where
  succeeds : (c.addPid n source).result = .ok .nothing
  pids : (c.addPid n source).state.pids = .ok (ps ++ [(n, source)])
  values : (c.addPid n source).state.get "PID" = c.get "PID" ++ [writtenPid n source]
  passes : ∀ version,
    malformedPid (writtenPid n source) ∉ (c.addPid n source).state.validate version
  others : OnlyChanges "PID" c (c.addPid n source).state

theorem addPid_eq {n : Nat} {source : Option Nat} (c : Parameters)
    (hn : n < 10 ^ Decimal.digitLimit) (hsource : ∀ m ∈ source, m < 10 ^ Decimal.digitLimit) :
    c.addPid n source = .done .nothing (c.put "PID" (writtenPid n source)) := by
  have hedit : (Change.set (.addPid n (source.map Int.ofNat))).edit? =
      .ok (.put "PID" (writtenPid n source)) := by
    rw [Change.edit?, Setter.edit?, pidText_eq hn hsource]
    rfl
  exact change_of_ok hedit c

theorem addsPid {n : Nat} {source : Option Nat} {ps : List (Nat × Option Nat)}
    (h : c.pids = .ok ps) (hn : n < 10 ^ Decimal.digitLimit)
    (hsource : ∀ m ∈ source, m < 10 ^ Decimal.digitLimit) : AddsPid c n source ps := by
  have hstate : (c.addPid n source).state = c.put "PID" (writtenPid n source) :=
    congrArg Attempt.state (addPid_eq c hn hsource)
  have hvalues : (c.put "PID" (writtenPid n source)).get "PID" =
      c.get "PID" ++ [writtenPid n source] := get_put_self c "PID" _
  refine ⟨congrArg Attempt.result (addPid_eq c hn hsource), ?_, hstate ▸ hvalues, ?_,
    hstate ▸ onlyChanges_put c "PID" _⟩
  · have hlast : [writtenPid n source].filterMap pidDigits? =
        [(Decimal.digitsOf n, source.map Decimal.digitsOf)] := by
      rw [List.filterMap_cons_some (pidDigits?_writtenPid n source), List.filterMap_nil]
    rw [Parameters.pids] at h
    rw [hstate, Parameters.pids, hvalues, List.filterMap_append, List.mapM_append, h, hlast,
      List.mapM_cons, pidNumbers_digitsOf hn hsource]
    rfl
  · intro version
    rw [malformedPid_mem_iff, pidDigits?_writtenPid]
    rintro ⟨-, h⟩
    cases h

/-- **Property identifiers are read as they are well formed.** Reading fails exactly if a value that
validation lets pass has a number of more digits than the limit, and otherwise gives one pair for
each such value, in their order, with the numbers of the value. An identifier of numbers below the
limit that is added comes last. -/
theorem pids_eq_wellFormed (c : Parameters) (version : Version) :
    ((∃ k, c.pids = .error (.tooManyDigits k) ∧ Decimal.digitLimit < k ∧
        ∃ v ∈ c.wellFormedPids version, HasNumber v k) ∨
      ∃ ps, c.pids = .ok ps ∧
        (∀ v ∈ c.wellFormedPids version, ∀ k, HasNumber v k → k ≤ Decimal.digitLimit) ∧
        List.Forall₂ StandsFor (c.wellFormedPids version) ps) ∧
    ∀ (n : Nat) (source : Option Nat) (ps : List (Nat × Option Nat)), c.pids = .ok ps →
      n < 10 ^ Decimal.digitLimit → (∀ m ∈ source, m < 10 ^ Decimal.digitLimit) →
      AddsPid c n source ps := by
  refine ⟨?_, fun _ _ _ h hn hsource => addsPid h hn hsource⟩
  cases h : c.pids with
  | error e =>
    obtain ⟨k, rfl, hlong, hv⟩ := exists_of_pids_error h
    exact Or.inl ⟨k, rfl, hlong, hv⟩
  | ok ps => exact Or.inr ⟨ps, rfl, of_pids_ok h⟩

/-- Digits of another script are read, with a line feed behind them or without; a word is left
out. -/
theorem pids_eq_wellFormed_scripts :
    let c := ofList [("PID", "word"), ("PID", "١.2\n")]
    c.wellFormedPids .v4_0 = ["١.2\n"] ∧ c.pids = .ok [(1, some 2)] ∧
      AddsPid c 12 (some 3) [(1, some 2)] ∧ AddsPid c 12 none [(1, some 2)] := by
  intro c
  have hpids : c.pids = .ok [(1, some 2)] := by decide +kernel
  have hbound : ∀ n : Nat, n < 10 ^ 2 → n < 10 ^ Decimal.digitLimit := fun n hn =>
    Nat.lt_of_lt_of_le hn (Nat.pow_le_pow_right (by decide) (by decide))
  obtain ⟨-, hadds⟩ := pids_eq_wellFormed c .v4_0
  refine ⟨by decide +kernel, hpids, hadds 12 (some 3) _ hpids (hbound 12 (by decide)) ?_,
    hadds 12 none _ hpids (hbound 12 (by decide)) ?_⟩
  · rintro m ⟨⟩
    exact hbound 3 (by decide)
  · rintro m ⟨⟩

end VCardKit.Parameters
