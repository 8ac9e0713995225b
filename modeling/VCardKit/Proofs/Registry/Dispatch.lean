/-
  Looking by name and looking by XML name lead to the same kind. The one compares names in upper
  case, the other names in lower case within a namespace; among ASCII names the two tell the same
  names apart, so two registrations never share a default XML name. A kind with an XML name of its
  own stays out of the vocabulary of cards if that name does, and a name that nobody registered is
  read back from its element as the name of a property of no kind.
-/
import VCardKit.Proofs.Registry.Run
import VCardKit.Proofs.Text.Ascii
import VCardKit.Proofs.Xml.Element

namespace VCardKit

/-- A sample whose names cannot collide: the name is ASCII, and an XML name of its own is outside
the vocabulary of cards. -/
def Sample.IsPlain (s : Sample) : Prop :=
  Text.IsAscii s.typeName ∧ ∀ q ∈ s.qualifiedName, q.1 ≠ xCardNamespace

instance : DecidablePred Sample.IsPlain := fun s =>
  inferInstanceAs (Decidable (Text.IsAscii s.typeName ∧ ∀ q ∈ s.qualifiedName,
    q.1 ≠ xCardNamespace))

namespace Registry

/-- The samples of all kinds of properties are plain. -/
theorem isPlain_of_kind (k : Kind) : ∀ s ∈ Registrable.sample? k, s.IsPlain := by
  cases k <;> decide +kernel

/-! ## New properties -/

section

variable {κ : Type}

/-- A new property for an XML name, where `new?` makes those of the registered kinds. -/
def createForXmlBy (new? : κ → Option AnyProperty) (r : Registry κ) (ns : Option String)
    (localName : String) : AnyProperty :=
  ((r.find? ns localName).bind new?).getD (.raw localName)

theorem createForXmlBy_ofKind? (r : Registry Kind) (ns : Option String) (localName : String) :
    r.createForXmlBy AnyProperty.ofKind? ns localName = r.createForXml ns localName := rfl

theorem createForXmlBy_of_find?_eq_none {r : Registry κ} {ns : Option String} {localName : String}
    (h : r.find? ns localName = none) (new? : κ → Option AnyProperty) :
    r.createForXmlBy new? ns localName = .raw localName := by
  rw [createForXmlBy, h]
  rfl

end

/-! ## Names and XML names -/

section

variable {κ : Type} [Registrable κ] {calls : List (Call κ)}
  (h : ∀ k override, Call.register k override ∈ calls → ∀ s ∈ Registrable.sample? k, s.IsPlain)

include h

/-- Within the vocabulary of cards, only default XML names are registered. -/
theorem exists_sample_of_qualifiedName {e : Registration κ} (he : e ∈ (run calls).entries)
    (hns : e.qualifiedName.1 = xCardNamespace) :
    ∃ s, Registrable.sample? e.kind = some s ∧ s.qualifiedName = none ∧
      Text.IsAscii s.typeName ∧ e = registration e.kind s := by
  obtain ⟨k, override, s, hcall, hs, rfl⟩ := mem_entries_run he
  obtain ⟨hascii, hforeign⟩ := h k override hcall s hs
  cases hq : s.qualifiedName with
  | none => exact ⟨s, hs, hq, hascii, rfl⟩
  | some q =>
    have hown : (registration k s).qualifiedName = q := by
      rw [registration, hq]
      rfl
    rw [hown] at hns
    exact absurd hns (hforeign q hq)

/-- A default XML name tells an ASCII name, up to its case. -/
theorem name_eq_of_qualifiedName {e : Registration κ} (he : e ∈ (run calls).entries) {name : String}
    (hname : Text.IsAscii name) (hq : e.qualifiedName = (xCardNamespace, Text.lower name)) :
    e.name = Text.upper name := by
  obtain ⟨s, -, hdefault, hascii, heq⟩ :=
    exists_sample_of_qualifiedName h he (congrArg Prod.fst hq)
  have hlower : Text.lower s.typeName = Text.lower name := by
    rw [heq, registration, hdefault] at hq
    exact congrArg Prod.snd hq
  rw [heq]
  exact Text.upper_eq_of_lower_eq hascii hname hlower

theorem find?_default {e : Registration κ} (he : e ∈ (run calls).entries) {s : Sample}
    (hs : Registrable.sample? e.kind = some s) (hdefault : s.qualifiedName = none)
    {ns : Option String} (hns : effectiveNamespace ns = xCardNamespace) :
    (run calls).find? ns (Text.lower s.typeName) = some e.kind := by
  obtain ⟨k, override, s', hcall, hs', rfl⟩ := mem_entries_run he
  obtain rfl : s' = s := Option.some.inj (hs'.symm.trans hs)
  have hascii : Text.IsAscii s'.typeName := (h k override hcall s' hs').1
  have hq : (registration k s').qualifiedName = (xCardNamespace, Text.lower s'.typeName) := by
    rw [registration, hdefault]
    rfl
  refine ((answersByAge calls).find?_iff ns _ _).2 ⟨_, he, ?_, rfl, fun d hd hdq => ?_⟩
  · rw [hq, hns]
  · -- No other registration bears this XML name, since it would bear the name, too.
    have hname : d.name = (registration k s').name :=
      name_eq_of_qualifiedName h hd hascii (hdq.trans hq)
    rw [hname]

theorem find?_eq_none_of_free {name : String} (hname : Text.IsAscii name)
    (hfree : (run calls).contains name = false) :
    (run calls).find? (some xCardNamespace) (Text.lower (Text.upper name)) = none := by
  cases hfind : (run calls).find? (some xCardNamespace) (Text.lower (Text.upper name)) with
  | none => rfl
  | some k =>
    obtain ⟨e, he, hq, -⟩ := exists_of_find?_eq_some hfind
    have hupper : e.name = Text.upper name := by
      rw [name_eq_of_qualifiedName h he hname.upper hq, Text.upper_upper]
    have hmem : Text.upper name ∈ (run calls).storedNames := hupper ▸ mem_storedNames_of_mem he
    exact absurd hmem (contains_eq_false_iff.1 hfree)

end

/-! ## Agreement -/

/-- The namespaces under which the vocabulary of cards is found. -/
def cardNamespaces : List (Option String) := [none, some "", some xCardNamespace]

theorem effectiveNamespace_of_mem {ns : Option String} (h : ns ∈ cardNamespaces) :
    effectiveNamespace ns = xCardNamespace := by
  simp only [cardNamespaces, List.mem_cons, List.not_mem_nil, or_false] at h
  exact effectiveNamespace_eq_iff.2 h

/-- **Dispatch by name and by XML name agree** in every registry of plain kinds. A registered kind
without an XML name of its own is found by its name in lower case as by its name; one that has an
XML name is not found in the vocabulary of cards; and an element that bears the default XML name of
a free name is read as a property of no kind that bears the name. -/
theorem find?_agrees_with_get? {κ : Type} [Registrable κ] {calls : List (Call κ)}
    (h : ∀ k override, Call.register k override ∈ calls →
      ∀ s ∈ Registrable.sample? k, s.IsPlain) :
    let r := run calls
    (∀ e ∈ r.entries, ∀ s, Registrable.sample? e.kind = some s → s.qualifiedName = none →
      ∀ ns ∈ cardNamespaces, r.find? ns (Text.lower s.typeName) = r.get? s.typeName ∧
        r.get? s.typeName = some e.kind) ∧
    (∀ k s, Registrable.sample? k = some s → s.qualifiedName ≠ none →
      ∀ ns ∈ cardNamespaces, ∀ localName, r.find? ns localName ≠ some k) ∧
    (∀ name, Text.IsAscii name → r.contains name = false → ∀ new? : κ → Option AnyProperty,
      let xmlName := (AnyProperty.raw name).defaultQualifiedName
      let tag := Xml.splitTag (Xml.qualify xmlName.1 xmlName.2)
      let p := r.createForXmlBy new? tag.1 tag.2
      p.kind = .raw ∧ p.typeName = Text.upper name) := by
  intro r
  refine ⟨fun e he s hs hdefault ns hns => ?_, fun k s hs hown ns hns localName hfind => ?_,
    fun name hname hfree new? => ?_⟩
  · have hget : r.get? s.typeName = some e.kind := by
      obtain ⟨k, _, s', -, hs', rfl⟩ := mem_entries_run he
      obtain rfl : s' = s := Option.some.inj (hs'.symm.trans hs)
      exact (get?_eq_some_iff (nodup_storedNames calls)).2 ⟨_, he, rfl, rfl⟩
    have hfind := find?_default h he hs hdefault (effectiveNamespace_of_mem hns)
    exact ⟨hfind.trans hget.symm, hget⟩
  · obtain ⟨e, he, hq, rfl⟩ := exists_of_find?_eq_some hfind
    rw [effectiveNamespace_of_mem hns] at hq
    obtain ⟨s', hs', hdefault, -⟩ :=
      exists_sample_of_qualifiedName h he (congrArg Prod.fst hq)
    obtain rfl : s' = s := Option.some.inj (hs'.symm.trans hs)
    exact hown hdefault
  · intro xmlName tag p
    have hspace : '\x7d' ∉ xCardNamespace.toList := by decide
    have htag : tag = (some xCardNamespace, Text.lower (Text.upper name)) :=
      Xml.splitTag_qualify hspace _
    have hp : p = .raw (Text.lower (Text.upper name)) := by
      show r.createForXmlBy new? tag.1 tag.2 = _
      rw [htag]
      exact createForXmlBy_of_find?_eq_none (find?_eq_none_of_free h hname hfree) new?
    have hupper : Text.upper (Text.lower (Text.upper name)) = Text.upper name := by
      rw [Text.upper_lower_of_ascii hname.upper, Text.upper_upper]
    rw [hp]
    exact ⟨rfl, hupper⟩

/-- A kind that replaced another, one with an XML name of its own, and a name that was given up. -/
theorem find?_agrees_with_get?_replaced :
    let r := run [.unregister "Fn", .register Kind.otherGender true, .register .namespaced false,
      .register .formattedName false, .register .gender false]
    r.find? (some "") "gender" = r.get? "GENDER" ∧ r.get? "GENDER" = some .otherGender ∧
      r.find? none "thing" ≠ some .namespaced ∧
      (let p := r.createForXml (some xCardNamespace) "fn"
       p.kind = .raw ∧ p.typeName = "FN") := by
  intro r
  have hplain : ∀ k override, Call.register k override ∈ ([.unregister "Fn",
      .register Kind.otherGender true, .register .namespaced false,
      .register .formattedName false, .register .gender false] : List (Call Kind)) →
      ∀ s ∈ Registrable.sample? k, s.IsPlain := fun k _ _ => isPlain_of_kind k
  obtain ⟨hagree, hforeign, hraw⟩ := find?_agrees_with_get? hplain
  have hmem : registration Kind.otherGender ⟨"GENDER", none⟩ ∈ r.entries := by decide +kernel
  have hfree : r.contains "Fn" = false := by decide +kernel
  obtain ⟨hfind, hget⟩ := hagree _ hmem ⟨"GENDER", none⟩ rfl rfl (some "") (by decide)
  have hlower : Text.lower "GENDER" = "gender" := by decide +kernel
  rw [hlower] at hfind
  refine ⟨hfind, hget, ?_, ?_⟩
  · exact hforeign .namespaced _ rfl (by decide) none (by decide) "thing"
  · have hfn := hraw "Fn" (by decide) hfree AnyProperty.ofKind?
    have htag : Xml.splitTag (Xml.qualify (AnyProperty.raw "Fn").defaultQualifiedName.1
        (AnyProperty.raw "Fn").defaultQualifiedName.2) = (some xCardNamespace, "fn") := by
      decide +kernel
    have hupper : Text.upper "Fn" = "FN" := by decide +kernel
    dsimp only at hfn
    rw [htag, hupper, createForXmlBy_ofKind?] at hfn
    exact hfn

end Registry

end VCardKit
