/-
  The letter case of ASCII texts. Among them, case is mapped character by character: no character
  becomes several and none is a sigma. So lower case loses no more than upper case does, and two
  texts with one lower case have one upper case (`upper_eq_of_lower_eq`). Beyond ASCII this fails:
  the capital I with a dot becomes two characters in lower case, of which the second stays when the
  text is put into upper case again.
-/
import VCardKit.Proofs.Text.Case

namespace VCardKit.Text

/-- A text of ASCII characters. -/
def IsAscii (s : String) : Prop := ∀ c ∈ s.toList, c.toNat < 128

instance : DecidablePred IsAscii := fun s =>
  List.decidableBAll (fun c : Char => c.toNat < 128) s.toList

/-! ## One character -/

/-- What holds of the first 128 code points holds of every ASCII character. -/
theorem ascii_forall {P : Char → Prop} (h : ∀ n < 128, P (Char.ofNat n)) {c : Char}
    (hc : c.toNat < 128) : P c := by
  have hn := h c.toNat hc
  rwa [Char.ofNat_toNat] at hn

section

variable {c : Char} (h : c.toNat < 128)

include h

theorem toUpper_toLower_of_ascii : c.toLower.toUpper = c.toUpper :=
  ascii_forall (P := fun c => c.toLower.toUpper = c.toUpper) (by decide +kernel) h

theorem toNat_toUpper_lt : c.toUpper.toNat < 128 :=
  ascii_forall (P := fun c => c.toUpper.toNat < 128) (by decide +kernel) h

theorem toNat_toLower_lt : c.toLower.toNat < 128 :=
  ascii_forall (P := fun c => c.toLower.toNat < 128) (by decide +kernel) h

theorem upperChar_of_ascii : upperChar c = [c.toUpper] := if_pos h

theorem lowerChar_of_ascii : lowerChar c = [c.toLower] := if_pos h

end

/-! ## Texts -/

theorem flatMap_upperChar_of_ascii {cs : List Char} (h : ∀ c ∈ cs, c.toNat < 128) :
    cs.flatMap upperChar = cs.map Char.toUpper := by
  induction cs with
  | nil => rfl
  | cons c rest ih =>
    have hc : c.toNat < 128 := h c List.mem_cons_self
    have hrest : ∀ d ∈ rest, d.toNat < 128 := fun d hd => h d (List.mem_cons_of_mem _ hd)
    rw [List.flatMap_cons, upperChar_of_ascii hc, ih hrest]
    rfl

/-- No ASCII character is a sigma, so what stands around a character does not matter. -/
theorem lowerChars_of_ascii {cs : List Char} (h : ∀ c ∈ cs, c.toNat < 128) (cased : Bool) :
    lowerChars cased cs = cs.map Char.toLower := by
  induction cs generalizing cased with
  | nil => rfl
  | cons c rest ih =>
    have hc : c.toNat < 128 := h c List.mem_cons_self
    have hrest : ∀ d ∈ rest, d.toNat < 128 := fun d hd => h d (List.mem_cons_of_mem _ hd)
    have hsigma : c ≠ 'Σ' := by
      rintro rfl
      exact absurd hc (by decide)
    rw [lowerChars, if_neg hsigma, lowerChar_of_ascii hc, ih hrest]
    rfl

section

variable {s t : String}

theorem toList_upper_of_ascii (h : IsAscii s) : (upper s).toList = s.toList.map Char.toUpper := by
  rw [upper, String.toList_ofList, flatMap_upperChar_of_ascii h]

theorem toList_lower_of_ascii (h : IsAscii s) : (lower s).toList = s.toList.map Char.toLower := by
  rw [lower, String.toList_ofList, lowerChars_of_ascii h]

theorem IsAscii.upper (h : IsAscii s) : IsAscii (upper s) := by
  intro c hc
  rw [toList_upper_of_ascii h] at hc
  obtain ⟨d, hd, rfl⟩ := List.mem_map.mp hc
  exact toNat_toUpper_lt (h d hd)

theorem IsAscii.lower (h : IsAscii s) : IsAscii (lower s) := by
  intro c hc
  rw [toList_lower_of_ascii h] at hc
  obtain ⟨d, hd, rfl⟩ := List.mem_map.mp hc
  exact toNat_toLower_lt (h d hd)

theorem upper_lower_of_ascii (h : IsAscii s) : Text.upper (Text.lower s) = Text.upper s := by
  rw [← String.toList_inj, toList_upper_of_ascii h.lower, toList_lower_of_ascii h,
    toList_upper_of_ascii h, List.map_map]
  exact List.map_congr_left fun c hc => toUpper_toLower_of_ascii (h c hc)

/-- Lower case tells ASCII texts apart as far as upper case does. -/
theorem upper_eq_of_lower_eq (hs : IsAscii s) (ht : IsAscii t)
    (h : Text.lower s = Text.lower t) : Text.upper s = Text.upper t := by
  rw [← upper_lower_of_ascii hs, h, upper_lower_of_ascii ht]

end

end VCardKit.Text
