/-
  Missing parts of a gender that was read. Three of the four readers take an empty part for a
  missing one. The reader of elements does so for the sex alone and keeps the text of an `identity`
  as it stands, so that an empty identity is there after a run of readings exactly if the latest
  that succeeded is of an element in which the identity is empty (`identity_eq_empty_iff`).
-/
import VCardKit.Proofs.Property.History

namespace VCardKit

/-- Whether a call reads an element whose identity is there and empty. -/
def ReadCall.HasEmptyIdentity : ReadCall → Prop
  | .xml _ (.element e) version _ =>
    Xml.PropertyElement.first? ⟨e, version⟩ ["identity"] = some ""
  | _ => False

namespace Gender

/-! ## Empty parts -/

theorem nonEmpty_ne_empty (s : String) : nonEmpty s ≠ some "" := by
  rw [nonEmpty]
  split
  · nofun
  · next h => exact fun heq => h (Option.some.inj heq)

theorem readSex_ne_empty (s : String) : readSex s ≠ some "" := nonEmpty_ne_empty _

/-- The parts of a gender that a call leaves: no part is empty but the identity of an element. -/
structure ReadFrom (call : ReadCall) (g : Gender) : Prop where
  sex_ne : g.sex ≠ some ""
  identity_iff : g.identity = some "" ↔ call.HasEmptyIdentity

section

variable {call : ReadCall}

theorem readFrom_of_parts {sex identity : Option String} (hsex : sex ≠ some "")
    (hidentity : identity = some "" ↔ call.HasEmptyIdentity) : ReadFrom call ⟨sex, identity⟩ :=
  ⟨hsex, hidentity⟩

theorem readFrom_ofText (h : ¬ call.HasEmptyIdentity) (value : String) :
    ReadFrom call (ofText value) := by
  refine readFrom_of_parts (readSex_ne_empty _) (iff_of_false (fun hidentity => ?_) h)
  obtain ⟨s, -, hs⟩ := Option.bind_eq_some_iff.1 hidentity
  exact nonEmpty_ne_empty s hs

theorem readFrom_ofTagged (h : ¬ call.HasEmptyIdentity) (value : TaggedValue) :
    ReadFrom call (ofTagged value) :=
  readFrom_of_parts (readSex_ne_empty _) (iff_of_false (nonEmpty_ne_empty _) h)

end

/-- The reader of elements has a sex or fails. -/
theorem readXml_of_sex {e : Xml.PropertyElement} {sex : String} (h : e.first? ["sex"] = some sex)
    (p : Property Gender) (mode : Mode) :
    readXml p e mode = .done [] ⟨readSex sex, e.first? ["identity"]⟩ := by
  rw [readXml, h]

theorem readXml_of_no_sex {e : Xml.PropertyElement} (h : e.first? ["sex"] = none)
    (p : Property Gender) (mode : Mode) :
    readXml p e mode = .failed (.missing [.named "sex"]) p.content := by
  rw [readXml, h]

/-! ## One reading -/

theorem readFrom_reading {p : Property Gender} {call : ReadCall} (h : p.canRead call = true) :
    ReadFrom call (p.reading call).state := by
  cases call with
  | text parameters value version mode => exact readFrom_ofText id value
  | json parameters value version => exact readFrom_ofTagged id value
  | html node => exact readFrom_ofText id node.value
  | xml parameters root version mode =>
    cases root with
    | comment text => exact absurd h Bool.false_ne_true
    | element e =>
      have hread : p.reading (.xml parameters (.element e) version mode) =
        readXml { p with parameters } ⟨e, version⟩ mode := rfl
      cases hsex : Xml.PropertyElement.first? ⟨e, version⟩ ["sex"] with
      | none =>
        rw [readXml_of_no_sex hsex] at hread
        have hfailed := Property.canRead_of_failed (congrArg Attempt.result hread)
        exact absurd h (Bool.eq_false_iff.1 hfailed)
      | some sex =>
        rw [hread, readXml_of_sex hsex]
        exact readFrom_of_parts (readSex_ne_empty sex) Iff.rfl

/-! ## Runs of readings -/

/-- A new gender, with neither part. -/
def fresh : AnyProperty := Registry.newProperty (some .gender) "GENDER"

/-- **Missing parts of a gender that was read.** After any readings of a new gender, whether they
succeeded or not, the sex is missing or not empty; and so is the identity, unless the latest reading
that succeeded is of an element whose identity is there and empty. -/
theorem identity_eq_empty_iff (calls : List ReadCall) :
    ∃ g, (fresh.afterReads calls).content = .gender .gender g ∧ g.sex ≠ some "" ∧
      (g.identity = some "" ↔
        ∃ call, calls.find? fresh.canRead = some call ∧ call.HasEmptyIdentity) := by
  let p : Property Gender := { typeName := "GENDER", content := {} }
  have hwrapped : fresh = p.wrapped (AnyContent.gender .gender) := rfl
  have hcan : fresh.canRead = p.canRead := funext (Property.canRead_wrapped _ p)
  have hrun := Property.content_afterReads p p calls
  refine ⟨(p.afterReads calls).content, ?_, ?_⟩
  · rw [hwrapped, Property.afterReads_wrapped]
    rfl
  rw [hcan, hrun]
  cases hlatest : calls.find? p.canRead with
  | none => exact ⟨nofun, iff_of_false nofun nofun⟩
  | some call =>
    obtain ⟨hsex, hidentity⟩ := readFrom_reading (List.find?_some hlatest)
    exact ⟨hsex, hidentity.trans ⟨fun h => ⟨call, rfl, h⟩, fun ⟨_, rfl, h⟩ => h⟩⟩

/-- An element with an empty identity, and the line that it is written as, which is read without
one. -/
theorem identity_empty_of_element :
    let e : Xml.Element :=
      ⟨"gender", none, [.element "sex" (some "M") [] none, .element "identity" none [] none]⟩
    let p := fresh.afterReads [.xml .empty (.element e) .v4_0 .rfc]
    let q := fresh.afterReads [.text .empty "M;" .v4_0 .rfc]
    p.content = .gender .gender ⟨some "M", some ""⟩ ∧
      (p.writeText .v4_0 .rfc).result = .ok "M;" ∧
      q.content = .gender .gender ⟨some "M", none⟩ := by
  exact ⟨by decide +kernel, by rfl, by decide +kernel⟩

end Gender

end VCardKit
