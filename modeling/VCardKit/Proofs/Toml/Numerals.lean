/-
  Numbers that are not too long. The digits of a number stand next to each other in the text, but
  for single underscores. So where no such run in a text has too many digits (`DigitsWithin`), every
  number at its front has few enough digits to be read and to be written (`takes_number`). The bound
  is that of the greatest base, sixteen: with as many digits, a number of any other base is less.
-/
import VCardKit.Proofs.Toml.Suffix
import VCardKit.Proofs.Toml.Writable
import Mathlib.Algebra.Group.Nat.Defs

namespace VCardKit.Toml

open VCardKit.Text
open Value (Fits)

/-! ## Runs of digits -/

/-- A digit of some base, or an underscore between two. -/
def IsNumeralChar (c : Char) : Prop := isDigitIn 16 c = true ∨ c = '_'

/-- No run of digits and underscores has more than `n` digits. The letters that are digits in base
sixteen count. -/
def DigitsWithin (n : Nat) (cs : List Char) : Prop :=
  ∀ run, run <:+: cs → (∀ c ∈ run, IsNumeralChar c) → (run.filter (isDigitIn 16)).length ≤ n

theorem digitsWithin_of_length_le {n : Nat} {cs : List Char} (h : cs.length ≤ n) :
    DigitsWithin n cs :=
  fun _ hrun _ => (List.length_filter_le _ _).trans (hrun.length_le.trans h)

theorem DigitsWithin.suffix {n : Nat} {cs rest : List Char} (h : DigitsWithin n cs)
    (hrest : rest <:+ cs) : DigitsWithin n rest :=
  fun run hrun => h run (hrun.trans hrest.isInfix)

/-- The digits that stand at the front of a text, with underscores among them, and what is left. -/
inductive TakesRun (p : Char → Bool) : List Char → Found (List Char) → Prop
  | nil (cs : List Char) : TakesRun p cs ([], cs)
  | digit {c : Char} {cs ds rest : List Char} (hc : p c = true) (h : TakesRun p cs (ds, rest)) :
    TakesRun p (c :: cs) (c :: ds, rest)
  | underscore {cs ds rest : List Char} (h : TakesRun p cs (ds, rest)) :
    TakesRun p ('_' :: cs) (ds, rest)

namespace TakesRun

variable {p : Char → Bool} {cs : List Char} {found : Found (List Char)}

theorem all (h : TakesRun p cs found) : ∀ c ∈ found.1, p c = true := by
  induction h with
  | nil => exact nofun
  | digit hc _ ih => exact List.forall_mem_cons.2 ⟨hc, ih⟩
  | underscore _ ih => exact ih

theorem exists_run (h : TakesRun p cs found) (hp : ∀ c, p c = true → isDigitIn 16 c = true) :
    ∃ run, cs = run ++ found.2 ∧ (∀ c ∈ run, IsNumeralChar c) ∧
      found.1.length ≤ (run.filter (isDigitIn 16)).length := by
  induction h with
  | nil cs => exact ⟨[], rfl, nofun, Nat.le_refl 0⟩
  | @digit c _ _ _ hc _ ih =>
    obtain ⟨run, rfl, hrun, hlength⟩ := ih
    refine ⟨c :: run, rfl, List.forall_mem_cons.2 ⟨.inl (hp c hc), hrun⟩, ?_⟩
    rw [List.filter_cons_of_pos (hp c hc)]
    exact Nat.succ_le_succ hlength
  | underscore _ ih =>
    obtain ⟨run, rfl, hrun, hlength⟩ := ih
    exact ⟨'_' :: run, rfl, List.forall_mem_cons.2 ⟨.inr rfl, hrun⟩, hlength⟩

theorem suffix (h : TakesRun p cs found) : found.2 <:+ cs := by
  induction h with
  | nil cs => exact List.suffix_rfl
  | digit _ _ ih => exact ih.trans (List.suffix_cons _ _)
  | underscore _ ih => exact ih.trans (List.suffix_cons _ _)

theorem length_le (h : TakesRun p cs found) (hp : ∀ c, p c = true → isDigitIn 16 c = true)
    {n : Nat} (hn : DigitsWithin n cs) : found.1.length ≤ n := by
  obtain ⟨run, rfl, hrun, hlength⟩ := h.exists_run hp
  exact hlength.trans (hn run (List.prefix_append _ _).isInfix hrun)

end TakesRun

theorem takesRun_digitGroup (p : Char → Bool) (cs : List Char) :
    TakesRun p cs (digitGroup p cs) := by
  fun_induction digitGroup p cs with
  | case1 => exact .nil []
  | case2 c hc => exact .digit hc (.nil [])
  | case3 c hc => exact .nil [c]
  | case4 c d rest hc => exact .nil _
  | case5 c rest hc rest' h ih => exact .digit (by simpa using hc) (.nil _)
  | case6 c rest hc ds rest' hds h ih =>
    rw [h] at ih
    exact .digit (by simpa using hc) (.underscore ih)
  | case7 c d rest hc hd ds rest' h ih =>
    rw [h] at ih
    exact .digit (by simpa using hc) ih

theorem takesRun_wholeDigits (cs : List Char) : TakesRun Char.isDigit cs (wholeDigits cs) := by
  unfold wholeDigits
  split
  · exact .digit (by decide) (.nil _)
  · exact takesRun_digitGroup Char.isDigit _

/-! ## Numbers in digits -/

theorem digitIn?_lt {base v : Nat} {c : Char} (h : digitIn? base c = some v) : v < base := by
  unfold digitIn? at h
  dsimp only at h
  rw [Option.ite_none_right_eq_some] at h
  obtain ⟨hlt, hv⟩ := h
  exact Option.some.inj hv ▸ hlt

theorem isDigitIn_mono {base base' : Nat} (hbase : base ≤ base') {c : Char}
    (h : isDigitIn base c = true) : isDigitIn base' c = true := by
  simp only [isDigitIn, digitIn?, Option.isSome_ite] at h ⊢
  exact Nat.lt_of_lt_of_le h hbase

theorem toNat_sub_lt_of_isDigit {c : Char} (h : c.isDigit = true) : c.toNat - 48 < 10 := by
  simp only [Char.isDigit, Bool.and_eq_true, decide_eq_true_eq, UInt32.le_iff_toNat_le] at h
  have hle : c.toNat ≤ 57 := h.2
  omega

theorem isDigitIn_of_isDigit {c : Char} (h : c.isDigit = true) : isDigitIn 16 c = true := by
  have hlt := toNat_sub_lt_of_isDigit h
  simp only [isDigitIn, digitIn?, if_pos h, Option.isSome_ite]
  omega

/-- A number is less than the power of its base to the count of its digits. -/
theorem foldl_lt {α : Type} {base : Nat} (value : α → Nat) {ds : List α}
    (h : ∀ d ∈ ds, value d < base) (first : Nat) :
    ds.foldl (fun n d => base * n + value d) first < (first + 1) * base ^ ds.length := by
  induction ds generalizing first with
  | nil => simp
  | cons d rest ih =>
    obtain ⟨hd, hrest⟩ := List.forall_mem_cons.1 h
    have hfirst : base * first + value d + 1 ≤ (first + 1) * base := by
      rw [Nat.succ_mul, Nat.mul_comm]
      omega
    calc rest.foldl (fun n d => base * n + value d) (base * first + value d)
      _ < (base * first + value d + 1) * base ^ rest.length := ih hrest _
      _ ≤ (first + 1) * base * base ^ rest.length := Nat.mul_le_mul_right _ hfirst
      _ = (first + 1) * base ^ (rest.length + 1) := by rw [Nat.mul_assoc, Nat.pow_succ']

theorem asciiNumber_lt {ds : List Char} (h : ∀ c ∈ ds, c.isDigit = true) :
    Decimal.asciiNumber ds < 10 ^ ds.length := by
  have hlt := foldl_lt (fun c : Char => c.toNat - 48)
    (fun c hc => toNat_sub_lt_of_isDigit (h c hc)) 0
  rwa [Nat.zero_add, Nat.one_mul] at hlt

theorem of_mapM_digitIn? {base : Nat} {cs : List Char} {vs : List Nat}
    (h : cs.mapM (digitIn? base) = some vs) : vs.length = cs.length ∧ ∀ v ∈ vs, v < base := by
  induction cs generalizing vs with
  | nil =>
    cases h
    exact ⟨rfl, nofun⟩
  | cons c cs ih =>
    rw [List.mapM_cons] at h
    obtain ⟨v, hv, h⟩ := Option.bind_eq_some_iff.1 h
    obtain ⟨vs', hvs, h⟩ := Option.bind_eq_some_iff.1 h
    cases h
    obtain ⟨hlength, hlt⟩ := ih hvs
    exact ⟨congrArg (· + 1) hlength, List.forall_mem_cons.2 ⟨digitIn?_lt hv, hlt⟩⟩

theorem numberIn?_lt {base n : Nat} {cs : List Char} (h : numberIn? base cs = some n) :
    n < base ^ cs.length := by
  unfold numberIn? at h
  split at h
  · cases h
  · obtain ⟨vs, hvs, rfl⟩ := Option.map_eq_some_iff.1 h
    obtain ⟨hlength, hlt⟩ := of_mapM_digitIn? hvs
    have hfold := foldl_lt id hlt 0
    rwa [Nat.zero_add, Nat.one_mul, hlength] at hfold

/-- The most digits of base sixteen with which every number has at most 4300 decimal digits. -/
def safeDigits : Nat := 3571

theorem isWritable_of_lt {n : Nat} (h : n < 16 ^ safeDigits) (negative : Bool) :
    Decimal.isWritable (if negative then -(n : Int) else n) = true := by
  have hpow : 16 ^ safeDigits ≤ Nat.pow 10 Decimal.digitLimit := by decide +kernel
  have habs : (if negative then -(n : Int) else n).natAbs = n := by cases negative <;> simp
  rw [Decimal.isWritable, habs, decide_eq_true_eq]
  exact Nat.lt_of_lt_of_le h hpow

/-! ## Readers -/

/-- A reader gives something good, or finds the text malformed. No number is too long for it, and no
value too deep. -/
inductive Yields {α : Type} (good : α → Prop) : Except Refusal α → Prop
  | ok {x : α} (hx : good x) : Yields good (.ok x)
  | malformed : Yields good (.error .malformed)

namespace Yields

variable {α β : Type} {good good' : α → Prop} {result : Except Refusal α}

theorem imp (h : Yields good result) (himp : ∀ x, good x → good' x) : Yields good' result := by
  cases h with
  | ok hx => exact .ok (himp _ hx)
  | malformed => exact .malformed

theorem bind {good' : β → Prop} (h : Yields good result) {next : α → Except Refusal β}
    (hnext : ∀ x, good x → Yields good' (next x)) : Yields good' (result >>= next) := by
  cases h with
  | ok hx => exact hnext _ hx
  | malformed => exact .malformed

theorem map {good' : β → Prop} (h : Yields good result) {g : α → β}
    (hg : ∀ x, good x → good' (g x)) : Yields good' (result.map g) := by
  cases h with
  | ok hx => exact .ok (hg _ hx)
  | malformed => exact .malformed

end Yields

/-- A reader takes something good from the front of a text and leaves a suffix. -/
def Takes {α : Type} (good : α → Prop) (cs : List Char) : Except Refusal (Found α) → Prop :=
  Yields fun f => good f.1 ∧ f.2 <:+ cs

namespace Takes

variable {α β : Type} {good : α → Prop} {good' : β → Prop} {cs cs' rest : List Char}
  {result : Except Refusal (Found α)}

theorem found {x : α} (hx : good x) (hrest : rest <:+ cs) : Takes good cs (.ok (x, rest)) :=
  .ok ⟨hx, hrest⟩

theorem malformed : Takes good cs (.error .malformed) := Yields.malformed

theorem mono (h : Takes good cs' result) (hcs : cs' <:+ cs) : Takes good cs result :=
  Yields.imp h fun _ hf => ⟨hf.1, hf.2.trans hcs⟩

theorem bind (h : Takes good cs result) {next : Found α → Except Refusal (Found β)}
    (hnext : ∀ x rest, good x → rest <:+ cs → Takes good' rest (next (x, rest))) :
    Takes good' cs (result >>= next) :=
  Yields.bind h fun f hf => (hnext f.1 f.2 hf.1 hf.2).mono hf.2

end Takes

/-! ## Readers of numbers -/

theorem of_based? {base n : Nat} (hbase : base ≤ 16) {cs : List Char}
    (hn : DigitsWithin safeDigits cs) {found : Found Value} (h : based? base cs = some found) :
    found.1.Fits n ∧ found.2 <:+ cs := by
  have hrun := takesRun_digitGroup (isDigitIn base) cs
  have hlength := hrun.length_le (fun c => isDigitIn_mono hbase) hn
  unfold based? at h
  obtain ⟨_, hnumber, rfl⟩ := Option.map_eq_some_iff.1 h
  obtain ⟨k, hdigits, ⟨⟩⟩ := Option.bind_eq_some_iff.1 hnumber
  refine ⟨?_, hrun.suffix⟩
  have hlt : k < 16 ^ safeDigits :=
    calc k
      _ < base ^ (digitGroup (isDigitIn base) cs).1.length := numberIn?_lt hdigits
      _ ≤ 16 ^ (digitGroup (isDigitIn base) cs).1.length := Nat.pow_le_pow_left hbase _
      _ ≤ 16 ^ safeDigits := Nat.pow_le_pow_right (by decide) hlength
  exact .integer (isWritable_of_lt hlt false)

theorem of_marked? {n : Nat} {cs : List Char} (hn : DigitsWithin safeDigits cs)
    {found : Found Value} (h : marked? cs = some found) : found.1.Fits n ∧ found.2 <:+ cs := by
  have hbehind {base : Nat} (hbase : base ≤ 16) {a b : Char} {rest : List Char}
      (hcs : cs = a :: b :: rest) (h : based? base rest = some found) :
      found.1.Fits n ∧ found.2 <:+ cs := by
    have hrest : rest <:+ cs := hcs ▸ ⟨[a, b], rfl⟩
    obtain ⟨hfits, hsuffix⟩ := of_based? hbase (hn.suffix hrest) h
    exact ⟨hfits, hsuffix.trans hrest⟩
  unfold marked? at h
  split at h
  · exact hbehind (by decide) rfl h
  · exact hbehind (by decide) rfl h
  · exact hbehind (by decide) rfl h
  · cases h

theorem suffix_signed (cs : List Char) : (Decimal.signed cs).2 <:+ cs := by
  unfold Decimal.signed
  split
  · exact List.suffix_cons _ _
  · exact List.suffix_cons _ _
  · exact List.suffix_rfl

theorem suffix_fractionDigits (cs : List Char) : (fractionDigits cs).2 <:+ cs := by
  unfold fractionDigits
  split
  · next rest =>
    split
    · exact List.suffix_rfl
    · exact (takesRun_digitGroup Char.isDigit rest).suffix.trans (List.suffix_cons _ _)
  · exact List.suffix_rfl

theorem suffix_exponentPart (cs : List Char) : (exponentPart cs).2 <:+ cs := by
  unfold exponentPart
  split
  · next mark rest =>
    split
    · have hsigned := suffix_signed rest
      dsimp only
      split
      · exact List.suffix_rfl
      · next ds rest' _ h =>
        have hrun := (takesRun_digitGroup Char.isDigit (Decimal.signed rest).2).suffix
        rw [h] at hrun
        exact (hrun.trans hsigned).trans (List.suffix_cons mark rest)
    · exact List.suffix_rfl
  · exact List.suffix_rfl

/-- A fraction or an exponent makes a number of limited precision, which is never too long. -/
theorem exists_decimalValue {n : Nat} {whole : List Char} (hwhole : ∀ c ∈ whole, c.isDigit = true)
    (hlength : whole.length ≤ safeDigits) (negative : Bool) (fraction : List Char)
    (exponent : Option Int) :
    ∃ v, decimalValue negative whole fraction exponent = .ok v ∧ v.Fits n := by
  unfold decimalValue
  split
  -- Neither a fraction nor an exponent: the digits are read as a whole number.
  · rw [if_pos (hlength.trans (by decide))]
    refine ⟨_, rfl, ?_⟩
    have hlt : Decimal.asciiNumber whole < 16 ^ safeDigits :=
      calc Decimal.asciiNumber whole
        _ < 10 ^ whole.length := asciiNumber_lt hwhole
        _ ≤ 16 ^ whole.length := Nat.pow_le_pow_left (by decide) _
        _ ≤ 16 ^ safeDigits := Nat.pow_le_pow_right (by decide) hlength
    exact .integer (isWritable_of_lt hlt negative)
  · exact ⟨_, rfl, .float⟩

theorem takes_unsigned {n : Nat} {cs : List Char} (hn : DigitsWithin safeDigits cs)
    (negative : Bool) : Takes (Fits n) cs (unsigned negative cs) := by
  unfold unsigned
  split
  · exact .found .float ⟨[_, _, _], rfl⟩
  · exact .found .float ⟨[_, _, _], rfl⟩
  · have hrun := takesRun_wholeDigits cs
    split
    · exact .malformed
    · next whole rest _ h =>
      rw [h] at hrun
      have hlength := hrun.length_le (fun c => isDigitIn_of_isDigit) hn
      obtain ⟨v, hv, hfits⟩ := exists_decimalValue hrun.all hlength negative
        (fractionDigits rest).1 (exponentPart (fractionDigits rest).2).1
      dsimp only
      rw [hv]
      exact .found hfits
        (((suffix_exponentPart _).trans (suffix_fractionDigits rest)).trans hrun.suffix)

/-- **No number is too long** where no run of digits in the text is. -/
theorem takes_number {n : Nat} {cs : List Char} (hn : DigitsWithin safeDigits cs) :
    Takes (Fits n) cs (number cs) := by
  unfold number
  split
  · next found h =>
    obtain ⟨hfits, hsuffix⟩ := of_marked? hn h
    exact .found hfits hsuffix
  · exact (takes_unsigned (hn.suffix (suffix_signed cs)) _).mono (suffix_signed cs)

end VCardKit.Toml
