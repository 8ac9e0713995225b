/-
  What the readers of properties see. Of an XML element they see the visible children, of a node of
  a web page the value; only an agent looks at a page more closely. Two inputs that look the same to
  a reader lead to the same result and leave the same property behind.
-/
import VCardKit.Proofs.Xml.Element
import VCardKit.Property.AnyContent

namespace VCardKit

/-! ## Elements -/

section

variable {e e' : Xml.PropertyElement} (h : e.visible = e'.visible) (mode : Mode)

include h

theorem TextValue.readXml_congr (p : Property TextValue) : readXml p e mode = readXml p e' mode := by
  rw [readXml, readXml, Xml.PropertyElement.first?_congr h]

theorem Categories.readXml_congr (p : Property Categories) :
    readXml p e mode = readXml p e' mode := by
  rw [readXml, readXml, Xml.PropertyElement.all_congr h]

theorem Gender.readXml_congr (p : Property Gender) : readXml p e mode = readXml p e' mode := by
  simp only [readXml, Xml.PropertyElement.first?_congr h]

theorem RawValue.readXml_congr (p : Property RawValue) : readXml p e mode = readXml p e' mode := by
  rw [readXml, readXml, Xml.PropertyElement.firstValue?_congr h]

theorem AnyContent.readXml_congr (p : AnyProperty) :
    Content.readXml p e mode = Content.readXml p e' mode := by
  obtain ⟨typeName, group, parameters, content⟩ := p
  cases content with
  | text kind c => exact congrArg (Attempt.mapState (text kind)) (TextValue.readXml_congr h mode _)
  | categories c => exact congrArg (Attempt.mapState categories) (Categories.readXml_congr h mode _)
  | gender kind c => exact congrArg (Attempt.mapState (gender kind)) (Gender.readXml_congr h mode _)
  | raw c => exact congrArg (Attempt.mapState raw) (RawValue.readXml_congr h mode _)
  -- The others refuse every element.
  | agent c => rfl
  | echo c => rfl
  | failing c => rfl

end

/-! ## Nodes of web pages -/

theorem Fallback.readHtml_congr {V : Type}
    (readText : Property V → String → Version → Mode → Attempt Failure V (List String))
    {node node' : Html.PageNode} (h : node.value = node'.value) (p : Property V) :
    readHtml readText p node = readHtml readText p node' := by
  rw [readHtml, readHtml, h]

theorem AnyContent.readHtml_congr {node node' : Html.PageNode} (h : node.value = node'.value)
    (hagent : ∀ p : Property Agent, Agent.readHtml p node = Agent.readHtml p node')
    (p : AnyProperty) : Content.readHtml p node = Content.readHtml p node' := by
  obtain ⟨typeName, group, parameters, content⟩ := p
  cases content with
  | text kind c => exact congrArg (fun value => Attempt.done [] (text kind ⟨some value⟩)) h
  | categories c => exact congrArg (fun value => Attempt.done [] (categories ⟨[value]⟩)) h
  | agent c => exact congrArg (Attempt.mapState agent) (hagent _)
  -- The others read the value as text.
  | gender kind c => exact congrArg (Attempt.mapState (gender kind)) (Fallback.readHtml_congr _ h _)
  | raw c => exact congrArg (Attempt.mapState raw) (Fallback.readHtml_congr _ h _)
  | echo c => exact congrArg (Attempt.mapState echo) (Fallback.readHtml_congr _ h _)
  | failing c => exact congrArg (Attempt.mapState failing) (Fallback.readHtml_congr _ h _)

end VCardKit
