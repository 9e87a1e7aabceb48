import WorkflowArtifacts.Conversion.Run

/-!
# Documents made from values

A conversion makes some of its records from values that it has not checked: it puts them into a
document and has the document validated. What is learnt from a success is the same each time. The
values were texts, or absent where they may be, and the normal form holds them unchanged. Nothing
else can be wrong with such a document, so the other way round it is accepted.
-/

namespace WorkflowArtifacts

open Schema

namespace Json

/-- Whether a value may stand where a text or the absent value is asked for. -/
def IsTextOrAbsent (j : Json) : Prop := j = .null ∨ ∃ s, j = .text s

theorem isTextOrAbsent_iff {j : Json} : j.IsTextOrAbsent ↔ .ofText? j.text? = j := by
  cases j <;> simp [IsTextOrAbsent, ofText?, text?]

theorem isTextOrAbsent_ofText? (s : Option String) : (ofText? s).IsTextOrAbsent := by
  rw [isTextOrAbsent_iff, text?_ofText?]

end Json

namespace Schema.Shape

theorem validate_eq_ok_iff {shape : Shape} {title : String} {j document : Json} :
    shape.validate title j = .ok document ↔ shape.issues j = [] ∧ document = shape.normal j := by
  rw [validate]
  split
  · next h => simp [h, eq_comm]
  · next h => simpa using fun hnil ↦ absurd hnil h

theorem text_issues_eq_nil_iff (j : Json) : text.issues j = [] ↔ ∃ s, j = .text s := by
  cases j <;> simp [issues]

/-- Where a text may be absent, nothing but a text and the absent value is accepted. -/
theorem nullable_text_issues_eq_nil_iff (j : Json) :
    (nullable .text).issues j = [] ↔ .ofText? j.text? = j := by
  cases j <;> simp [issues, Json.isNull, Json.ofText?, Json.text?]

@[simp] theorem nullable_text_normal (j : Json) : (nullable .text).normal j = j := by
  cases j <;> rfl

end Schema.Shape

namespace RecordClass

theorem process_validate_eq_ok {id name document : Json}
    (h : RecordClass.process.validate (.object [("id", id), ("name", name)]) = .ok document) :
    .ofText? id.text? = id ∧ .ofText? name.text? = name ∧
      document = .object [("id", id), ("name", name), ("flow_elements", .array [])] := by
  obtain ⟨hissues, hnormal⟩ := Shape.validate_eq_ok_iff.1 h
  change ((Shape.nullable .text).issues id).map _
    ++ (((Shape.nullable .text).issues name).map _ ++ ([] ++ [])) = [] at hissues
  simp only [List.append_eq_nil_iff, List.map_eq_nil_iff, Shape.nullable_text_issues_eq_nil_iff]
    at hissues
  refine ⟨hissues.1, hissues.2.1, ?_⟩
  change document = .object [("id", (Shape.nullable .text).normal id),
    ("name", (Shape.nullable .text).normal name), ("flow_elements", .array [])] at hnormal
  simpa only [Shape.nullable_text_normal] using hnormal

theorem process_validate_of_texts {id name : Json} (hid : id.IsTextOrAbsent)
    (hname : name.IsTextOrAbsent) :
    RecordClass.process.validate (.object [("id", id), ("name", name)])
      = .ok (.object [("id", id), ("name", name), ("flow_elements", .array [])]) := by
  rcases hid with rfl | ⟨id, rfl⟩ <;> rcases hname with rfl | ⟨name, rfl⟩ <;> rfl

theorem modelNamespace_validate_eq_ok {uri : String} {qualifier document : Json}
    (h : RecordClass.modelNamespace.validate
      (.object [("uri", .text uri), ("prefix", qualifier)]) = .ok document) :
    ∃ text, qualifier = .text text ∧
      document = .object [("uri", .text uri), ("prefix", .text text)] := by
  obtain ⟨hissues, hnormal⟩ := Shape.validate_eq_ok_iff.1 h
  change [] ++ ((Shape.text.issues qualifier).map _ ++ []) = [] at hissues
  simp only [List.append_eq_nil_iff, List.map_eq_nil_iff, Shape.text_issues_eq_nil_iff]
    at hissues
  obtain ⟨-, ⟨text, rfl⟩, -⟩ := hissues
  exact ⟨text, rfl, hnormal⟩

theorem modelNamespace_validate_of_text (uri qualifier : String) :
    RecordClass.modelNamespace.validate
      (.object [("uri", .text uri), ("prefix", .text qualifier)])
        = .ok (.object [("uri", .text uri), ("prefix", .text qualifier)]) :=
  rfl

theorem contentModel_validate_eq_ok {name : String} {description author version document : Json}
    (h : RecordClass.contentModel.validate
      (.object
        [("name", .text name), ("description", description), ("author", author),
          ("version", version)]) = .ok document) :
    .ofText? description.text? = description ∧ .ofText? author.text? = author ∧
      .ofText? version.text? = version ∧
      document = .object
        [("name", .text name), ("description", description), ("author", author),
          ("version", version), ("namespaces", .array []), ("imports", .array [])] := by
  obtain ⟨hissues, hnormal⟩ := Shape.validate_eq_ok_iff.1 h
  change [] ++ (((Shape.nullable .text).issues description).map _
    ++ (((Shape.nullable .text).issues author).map _
      ++ (((Shape.nullable .text).issues version).map _ ++ ([] ++ ([] ++ []))))) = [] at hissues
  simp only [List.append_eq_nil_iff, List.map_eq_nil_iff, Shape.nullable_text_issues_eq_nil_iff]
    at hissues
  obtain ⟨-, hdescription, hauthor, hversion, -⟩ := hissues
  refine ⟨hdescription, hauthor, hversion, ?_⟩
  change document = .object
    [("name", .text name), ("description", (Shape.nullable .text).normal description),
      ("author", (Shape.nullable .text).normal author),
      ("version", (Shape.nullable .text).normal version), ("namespaces", .array []),
      ("imports", .array [])] at hnormal
  simpa only [Shape.nullable_text_normal] using hnormal

theorem contentModel_validate_of_texts (name : String) {description author version : Json}
    (hdescription : description.IsTextOrAbsent) (hauthor : author.IsTextOrAbsent)
    (hversion : version.IsTextOrAbsent) :
    RecordClass.contentModel.validate
      (.object
        [("name", .text name), ("description", description), ("author", author),
          ("version", version)]) = .ok (.object
        [("name", .text name), ("description", description), ("author", author),
          ("version", version), ("namespaces", .array []), ("imports", .array [])]) := by
  rcases hdescription with rfl | ⟨description, rfl⟩ <;> rcases hauthor with rfl | ⟨author, rfl⟩ <;>
    rcases hversion with rfl | ⟨version, rfl⟩ <;> rfl

/-- A description that is no text is refused, and it is all that is wrong. -/
theorem contentModel_validate_of_not_text (name : String) {description author version : Json}
    (hdescription : ¬ description.IsTextOrAbsent) (hauthor : author.IsTextOrAbsent)
    (hversion : version.IsTextOrAbsent) :
    RecordClass.contentModel.validate
      (.object
        [("name", .text name), ("description", description), ("author", author),
          ("version", version)])
        = .error ⟨"M2Model", [.under (.key "description") (.here .notText)]⟩ := by
  cases description with
  | null => exact absurd (.inl rfl) hdescription
  | text s => exact absurd (.inr ⟨s, rfl⟩) hdescription
  | _ =>
    rcases hauthor with rfl | ⟨author, rfl⟩ <;> rcases hversion with rfl | ⟨version, rfl⟩ <;> rfl

end RecordClass

end WorkflowArtifacts
