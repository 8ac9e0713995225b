/-
  When a reference cannot be resolved. Of both texts only the authority is ever refused, the one of
  the base first, and only where neither text is empty (`resolve_eq_error_iff`). The characters of
  an authority are some of those of the text, so that texts without brackets and without characters
  that hide a delimiter always resolve (`not_refuses_of_isPlain`).
-/
import VCardKit.Url.Reference

namespace VCardKit.Url

open VCardKit.Text

/-- The authority of a reference; empty if it has none. -/
def authority (cs : List Char) : List Char := (splitAuthority (splitScheme "" (sanitize cs)).2).1

/-! ## Reading -/

/-- The scheme that a reference gets by default is no part of the rest. -/
theorem snd_splitScheme (default : String) (cs : List Char) :
    (splitScheme default cs).2 = (splitScheme "" cs).2 := by
  simp only [splitScheme]
  split <;> rfl

theorem ofChars?_of_error {cs : List Char} {error : UrlError}
    (h : checkAuthority (authority cs) = .error error) (default : String) :
    Reference.ofChars? default cs = .error error := by
  rw [authority, ← snd_splitScheme default] at h
  simp only [Reference.ofChars?, h]
  rfl

theorem exists_ofChars?_of_ok {cs : List Char} (h : checkAuthority (authority cs) = .ok ())
    (default : String) : ∃ r, Reference.ofChars? default cs = .ok r := by
  rw [authority, ← snd_splitScheme default] at h
  simp only [Reference.ofChars?, h]
  exact ⟨_, rfl⟩

/-! ## Resolution -/

/-- What refuses a reference under a base: the authority of the base, or else its own. -/
def Refuses (base reference : String) (error : UrlError) : Prop :=
  base ≠ "" ∧ reference ≠ "" ∧
    (checkAuthority (authority base.toList) = .error error ∨
      checkAuthority (authority base.toList) = .ok () ∧
        checkAuthority (authority reference.toList) = .error error)

theorem resolve_eq_error_iff {base reference : String} {error : UrlError} :
    resolve base reference = .error error ↔ Refuses base reference error := by
  rw [Refuses, resolve]
  by_cases hbase : base = ""
  · simp [hbase, pure, Except.pure]
  by_cases hreference : reference = ""
  · simp [hbase, hreference, pure, Except.pure]
  simp only [hbase, hreference, if_false, ne_eq, not_false_eq_true, true_and]
  cases hb : checkAuthority (authority base.toList) with
  | error e =>
    rw [ofChars?_of_error hb]
    simp [bind, Except.bind]
  | ok _ =>
    obtain ⟨b, hb'⟩ := exists_ofChars?_of_ok hb ""
    simp only [hb', bind, Except.bind]
    cases hr : checkAuthority (authority reference.toList) with
    | error e =>
      rw [ofChars?_of_error hr]
      simp
    | ok _ =>
      obtain ⟨r, hr'⟩ := exists_ofChars?_of_ok hr b.scheme
      simp only [hr', pure, Except.pure]
      split <;> simp

/-! ## Plain texts -/

/-- Whether a text holds no bracket and no character that hides a delimiter. -/
def IsPlain (cs : List Char) : Prop := ∀ c ∈ cs, c ≠ '[' ∧ c ≠ ']' ∧ c.toNat ∉ hiddenDelimiters

theorem checkAuthority_of_isPlain {cs : List Char} (h : IsPlain cs) :
    checkAuthority cs = .ok () := by
  have hopen : cs.contains '[' = false := by
    simpa using fun hmem => (h _ hmem).1 rfl
  have hclose : cs.contains ']' = false := by
    simpa using fun hmem => (h _ hmem).2.1 rfl
  have hbrackets : checkBrackets cs = .ok () := by
    simp only [checkBrackets, hopen, hclose]
  have hdelimiters : checkDelimiters cs = .ok () :=
    if_neg (by simpa using fun c hc => (h c hc).2.2)
  rw [checkAuthority, hbrackets]
  exact hdelimiters

theorem sanitize_sublist (cs : List Char) : (sanitize cs).Sublist cs :=
  List.filter_sublist.trans (List.dropWhile_sublist _)

theorem snd_splitScheme_sublist (default : String) (cs : List Char) :
    (splitScheme default cs).2.Sublist cs := by
  simp only [splitScheme]
  split
  · exact (List.drop_sublist 1 _).trans (List.dropWhile_sublist _)
  · exact .refl cs

theorem fst_splitAuthority_sublist (cs : List Char) : (splitAuthority cs).1.Sublist cs := by
  rw [splitAuthority.eq_def]
  split
  · next rest => exact (List.takeWhile_sublist _).trans (List.drop_sublist 2 ('/' :: '/' :: rest))
  · exact List.nil_sublist cs

theorem authority_sublist (cs : List Char) : (authority cs).Sublist cs :=
  (fst_splitAuthority_sublist _).trans
    ((snd_splitScheme_sublist "" _).trans (sanitize_sublist cs))

/-- A plain text is never refused under a plain base. -/
theorem not_refuses_of_isPlain {base reference : String} (hbase : IsPlain base.toList)
    (hreference : IsPlain reference.toList) (error : UrlError) :
    ¬ Refuses base reference error := by
  have hchecked {cs : List Char} (h : IsPlain cs) : checkAuthority (authority cs) = .ok () :=
    checkAuthority_of_isPlain fun c hc => h c ((authority_sublist cs).subset hc)
  rintro ⟨-, -, hrefused⟩
  rw [hchecked hbase, hchecked hreference] at hrefused
  rcases hrefused with hrefused | ⟨-, hrefused⟩ <;> exact absurd hrefused nofun

end VCardKit.Url
