/-
  Setters of ranks and of positions. A number of few enough digits is written so that reading gives
  it back (`Decimal.numeral_toString`), and what is written passes validation. So a setter has three
  outcomes: a number in range becomes the only value of its name, whatever values it had; a number
  out of range is refused and the store stays as it was; and no number takes the name away
  (`setsRank_or_refuses`).
-/
import VCardKit.Proofs.Parameters.Numbers
import VCardKit.Proofs.Parameters.Run
import VCardKit.Proofs.Parameters.Validation

namespace VCardKit.Parameters

variable {n : Int}

/-! ## Ranks and positions -/

namespace RankField

variable {field : RankField}

/-- The numbers in range. -/
def InRange : RankField → Int → Prop
  | pref, n => 1 ≤ n ∧ n ≤ 100
  | index, n => 0 < n

/-- The number that a container holds. -/
def read? (c : Parameters) : RankField → Option Int
  | pref => c.pref?
  | index => c.index?

theorem accepts_iff : field.accepts n = true ↔ field.InRange n := by
  cases field with
  | pref => simp only [accepts, isPref, InRange, Bool.and_eq_true, decide_eq_true_eq]
  | index => simp only [accepts, isIndex, InRange, decide_eq_true_eq]

theorem name_mem_numericNames (field : RankField) : field.name ∈ numericNames := by
  cases field <;> decide

theorem key_name (field : RankField) : key field.name = field.name :=
  key_of_mem_numericNames _ field.name_mem_numericNames

theorem pos_of_inRange (h : field.InRange n) : 0 < n := by
  cases field with
  | pref =>
    have hrange : 1 ≤ n ∧ n ≤ 100 := h
    omega
  | index => exact h

/-- Reading takes the first value of the name. -/
theorem read?_eq (c : Parameters) (field : RankField) :
    field.read? c = (c.first? field.name).bind Decimal.integer? := by
  cases field <;> rfl

/-- A number that can be written is written if it is in range, and refused if it is not. -/
theorem text_eq (field : RankField) (hn : n.natAbs < 10 ^ Decimal.digitLimit) :
    field.text n = if field.accepts n then .ok (toString n) else .error (field.refusal n) := by
  rw [text, numberText_eq hn]
  rfl

/-! ## What is written -/

/-- A number in range with few enough digits is written as a numeral that stands for it. -/
theorem numeral_of_inRange (h : field.InRange n) (hn : n.natAbs < 10 ^ Decimal.digitLimit) :
    Decimal.Numeral (toString n).toList n := by
  have hpos := pos_of_inRange h
  obtain ⟨m, rfl⟩ := Int.eq_ofNat_of_zero_le (Int.le_of_lt hpos)
  rw [Int.natAbs_natCast] at hn
  exact Decimal.numeral_toString hn

/-- Digits are no control characters. -/
theorem hasNoControl_of_inRange (h : field.InRange n) : HasNoControl (toString n) := by
  have hpos := pos_of_inRange h
  obtain ⟨m, rfl⟩ := Int.eq_ofNat_of_zero_le (Int.le_of_lt hpos)
  intro ch hch
  rw [Decimal.toList_toString] at hch
  have hdigit := (Decimal.digits_toDigits m).isDigit ch hch
  exact Text.isControl_of_isDigit hdigit

theorem valueProblem?_of_inRange (h : field.InRange n)
    (hn : n.natAbs < 10 ^ Decimal.digitLimit) :
    valueProblem? .v4_0 field.name (toString n) = none := by
  have hnumeral := numeral_of_inRange h hn
  cases field with
  | pref =>
    have hrank : (Decimal.integer? (toString n)).any isPref = true :=
      integer?_any_isPref_iff.2 ⟨n, hnumeral, h⟩
    exact if_pos hrank
  | index =>
    have hposition : (Decimal.integer? (toString n)).any isIndex = true :=
      integer?_any_isIndex_iff.2 ⟨n, hnumeral, h⟩
    exact if_pos hposition

/-- The row that a setter writes gives no warning. -/
theorem entryWarnings_of_inRange (h : field.InRange n)
    (hn : n.natAbs < 10 ^ Decimal.digitLimit) :
    entryWarnings .v4_0 (field.name, [toString n]) = [] := by
  rw [entryWarnings_eq_nil_iff]
  refine ⟨nameWarnings_of_mem_numericNames _ field.name_mem_numericNames, ?_⟩
  intro v hv
  obtain rfl : v = toString n := List.mem_singleton.1 hv
  exact ⟨hasNoControl_of_inRange h, valueProblem?_of_inRange h hn⟩

end RankField

/-! ## What a setter makes of a container -/

/-- `c'` is `c` with a number as the only value of its name. Reading gives the number, validation
finds nothing about the name and otherwise what it finds without it, and the other names keep their
values and their order. -/
structure HoldsRank (field : RankField) (n : Int) (c c' : Parameters) : Prop where
  values : c'.get field.name = [toString n]
  reads : field.read? c' = some n
  silent : entryWarnings .v4_0 (field.name, c'.get field.name) = []
  findings : c'.validate .v4_0 = (c.removeAll field.name).validate .v4_0
  others : OnlyChanges field.name c c'

/-- `c'` is `c` without the name. -/
structure LacksRank (field : RankField) (c c' : Parameters) : Prop where
  absent : field.name ∉ c'.names
  values : c'.get field.name = []
  reads : field.read? c' = none
  others : OnlyChanges field.name c c'

theorem holdsRank_replace {field : RankField} (c : Parameters) (h : field.InRange n)
    (hn : n.natAbs < 10 ^ Decimal.digitLimit) :
    HoldsRank field n c (c.replace field.name (some (toString n))) := by
  have hvalues : (c.replace field.name (some (toString n))).get field.name = [toString n] :=
    get_replace_self c field.name (some (toString n))
  have hsilent := RankField.entryWarnings_of_inRange h hn
  refine ⟨hvalues, ?_, ?_, ?_, onlyChanges_replace c field.name _⟩
  · have hfirst : (c.replace field.name (some (toString n))).first? field.name =
        some (toString n) := by
      rw [first?, hvalues]
      rfl
    rw [RankField.read?_eq, hfirst]
    exact Decimal.integer?_eq_some_iff.2 (RankField.numeral_of_inRange h hn)
  · rw [hvalues]
    exact hsilent
  · -- Replacing removes the name first, so its one row stands behind all others.
    have hnew : key field.name ∉ (c.removeAll field.name).names :=
      not_mem_names_removeAll c field.name
    have hput := validate_put_new .v4_0 (toString n) hnew
    rw [← entryWarnings_singleton, field.key_name, hsilent, List.append_nil] at hput
    exact hput

theorem lacksRank_replace (c : Parameters) (field : RankField) :
    LacksRank field c (c.replace field.name none) := by
  have hvalues : (c.replace field.name none).get field.name = [] :=
    get_replace_self c field.name none
  refine ⟨?_, hvalues, ?_, onlyChanges_replace c field.name none⟩
  · have hstored : key field.name ∉ (c.replace field.name none).names := by
      rw [mem_names_iff, hvalues]
      exact fun hne => hne rfl
    rwa [field.key_name] at hstored
  · rw [RankField.read?_eq, first?, hvalues]
    rfl

end VCardKit.Parameters

/-! ## Setters in a store -/

namespace VCardKit.Store

open Parameters (Answer HoldsRank LacksRank RankField Setter)

variable {s : Store}

/-- Assigns a number, or none, to a parameter of a container. -/
def assign (s : Store) (i : Fin s.parameters.size) (field : RankField) (value : Option Int) :
    Attempt ParameterError Store Answer :=
  s.changeParameters ⟨i⟩ (.set (.rank field value))

/-- An assignment that comes down to a replacement makes it. -/
theorem of_assign (i : Fin s.parameters.size) (field : RankField) {value : Option Int}
    {text : Option String}
    (h : (Setter.rank field value).edit? = .ok (.replace field.name text)) :
    (s.assign i field value).result = .ok .nothing ∧
      (s.assign i field value).state.parametersAt ⟨i⟩ =
        (s.parametersAt ⟨i⟩).replace field.name text := by
  have hchange : (s.parametersAt ⟨i⟩).change (.set (.rank field value)) =
      .done .nothing ((s.parametersAt ⟨i⟩).replace field.name text) :=
    Parameters.change_of_ok (c := .set (.rank field value)) h (s.parametersAt ⟨i⟩)
  constructor
  · have hresult : (s.assign i field value).result =
        ((s.parametersAt ⟨i⟩).change (.set (.rank field value))).result :=
      Containers.result_change _
    rw [hresult, hchange]
    rfl
  · rw [assign, parametersAt_changeParameters i.isLt, if_pos rfl, hchange]
    rfl

/-- An assignment that is refused leaves the store as it was. -/
theorem assign_of_refused (i : Fin s.parameters.size) (field : RankField) {value : Option Int}
    {e : ParameterError} (h : (Setter.rank field value).edit? = .error e) :
    s.assign i field value = .failed e s := by
  have hchange : s.parameters.change i (.set (.rank field value)) = .failed e s.parameters :=
    Containers.change_of_error (c := .set (.rank field value)) h s.parameters i
  rw [assign, changeParameters, hchange]
  rfl

/-- **Setters of ranks are exact or have no effect.** Assigning a number in range succeeds and makes
it the only value of its name; a number out of range is refused and leaves the store as it was; and
assigning no number removes the name. -/
theorem setsRank_or_refuses (s : Store) (i : Fin s.parameters.size) (field : RankField) {n : Int}
    (hn : n.natAbs < 10 ^ Decimal.digitLimit) :
    let c := s.parametersAt ⟨i⟩
    (field.InRange n → (s.assign i field (some n)).result = .ok .nothing ∧
      HoldsRank field n c ((s.assign i field (some n)).state.parametersAt ⟨i⟩)) ∧
    (¬ field.InRange n → s.assign i field (some n) = .failed (field.refusal n) s) ∧
    (s.assign i field none).result = .ok .nothing ∧
      LacksRank field c ((s.assign i field none).state.parametersAt ⟨i⟩) := by
  intro c
  refine ⟨fun h => ?_, fun h => ?_, ?_⟩
  · have hedit : (Setter.rank field (some n)).edit? =
        .ok (.replace field.name (some (toString n))) := by
      rw [Setter.edit?, field.text_eq hn, if_pos (RankField.accepts_iff.2 h)]
      rfl
    obtain ⟨hresult, hafter⟩ := of_assign i field hedit
    rw [hafter]
    exact ⟨hresult, Parameters.holdsRank_replace c h hn⟩
  · have hedit : (Setter.rank field (some n)).edit? = .error (field.refusal n) := by
      rw [Setter.edit?, field.text_eq hn, if_neg fun hin => h (RankField.accepts_iff.1 hin)]
      rfl
    exact assign_of_refused i field hedit
  · have hedit : (Setter.rank field none).edit? = .ok (.replace field.name none) := rfl
    obtain ⟨hresult, hafter⟩ := of_assign i field hedit
    rw [hafter]
    exact ⟨hresult, Parameters.lacksRank_replace c field⟩

/-- A position over values that are none: a number in range takes their place, and zero is
refused. -/
theorem setsRank_or_refuses_over_words :
    let c := Parameters.ofList [("INDEX", "word"), ("TYPE", "home"), ("index", "0")]
    let s := (initial.addParameters c).2
    let i : Fin s.parameters.size := ⟨0, by decide⟩
    (12 : Int).natAbs < 10 ^ Decimal.digitLimit ∧ (0 : Int).natAbs < 10 ^ Decimal.digitLimit ∧
      HoldsRank .index 12 c ((s.assign i .index (some 12)).state.parametersAt ⟨i⟩) ∧
      s.assign i .index (some 0) = .failed (.indexNotPositive 0) s ∧
      LacksRank .index c ((s.assign i .index none).state.parametersAt ⟨i⟩) := by
  intro c s i
  have hbound : ∀ k : Nat, k < 10 ^ 2 → k < 10 ^ Decimal.digitLimit := by
    intro k hk
    exact Nat.lt_of_lt_of_le hk (Nat.pow_le_pow_right (by decide) (by decide))
  have hc : s.parametersAt ⟨i⟩ = c := Containers.get_add_size initial.parameters c
  have htwelve : (12 : Int).natAbs < 10 ^ Decimal.digitLimit := hbound 12 (by decide)
  have hzero : (0 : Int).natAbs < 10 ^ Decimal.digitLimit := hbound 0 (by decide)
  obtain ⟨hinRange, -, -, hnone⟩ := setsRank_or_refuses s i .index htwelve
  obtain ⟨-, hrefuses, -⟩ := setsRank_or_refuses s i .index hzero
  have hholds := (hinRange (by unfold RankField.InRange; omega)).2
  have hrefused := hrefuses (by unfold RankField.InRange; omega)
  rw [hc] at hholds hnone
  exact ⟨htwelve, hzero, hholds, hrefused, hnone⟩

end VCardKit.Store
