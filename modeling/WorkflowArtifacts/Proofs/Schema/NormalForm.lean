import WorkflowArtifacts.Proofs.Schema.Requests
import WorkflowArtifacts.Schema.Catalogue

/-!
# Documents in normal form

What validation yields is in normal form: a record has exactly its fields, in order and under
their own names, and every value is of the kind that its shape asks for. This holds of every
document without issues, as long as the shape is coherent.

A shape is coherent when no two fields of a record answer to the same name, when what stands for a
field that is left out is in normal form, and the absent value wherever the field may hold that,
and when every class of a union begins with the tag that selects it. The classes of records are
coherent, all but the settings, where a field that may be absent has another default.
-/

namespace WorkflowArtifacts

theorem Json.get_object (entries : List (String × Json)) (key : String) :
    (Json.object entries).get key = (entries.lookup key).getD .null := rfl

namespace Schema

/-! ## Normal form -/

mutual

/-- Whether a document of the given shape is in normal form. -/
def Shape.isNormal : Shape → Json → Bool
  | .text, j => j.text?.isSome
  | .flag, j => j.bool?.isSome
  | .document, j =>
    match j with
    | .object _ => true
    | _ => false
  | .literal tag, j => tag.isWritten j
  | .nullable inner, j => j.isNull || inner.isNormal j
  | .list item, j =>
    match j with
    | .array items => items.all item.isNormal
    | _ => false
  | .record _ fields, j =>
    match j with
    | .object entries => fields.isNormal entries
    | _ => false
  | .variants key branches, j =>
    match j with
    | .object entries => branches.isNormal (j.get key) entries
    | _ => false

/-- Whether these are the entries of a record in normal form. -/
def Fields.isNormal : Fields → List (String × Json) → Bool
  | .nil, entries => entries.isEmpty
  | .cons _ _ _, [] => false
  | .cons spec shape rest, (name, value) :: entries =>
    name == spec.name && shape.isNormal value && rest.isNormal entries

/-- Whether these are the entries in normal form of an object that says it is `found`. -/
def Branches.isNormal : Branches → (found : Json) → List (String × Json) → Bool
  | .nil, _, _ => false
  | .cons tag fields rest, found, entries =>
    if tag.isWritten found then fields.isNormal entries else rest.isNormal found entries

end

section

variable {j : Json} {inner item : Shape} {title key : String} {fields : Fields}
  {branches : Branches}

attribute [local simp] Shape.isNormal

theorem Shape.isNormal_text_iff : text.isNormal j = true ↔ ∃ s, j = .text s := by
  cases j <;> simp [Json.text?]

theorem Shape.isNormal_flag_iff : flag.isNormal j = true ↔ ∃ b, j = .bool b := by
  cases j <;> simp [Json.bool?]

theorem Shape.isNormal_document_iff :
    document.isNormal j = true ↔ ∃ entries, j = .object entries := by
  cases j <;> simp

theorem Shape.isNormal_nullable_iff :
    (nullable inner).isNormal j = true ↔ j = .null ∨ inner.isNormal j = true := by
  rw [isNormal, Bool.or_eq_true, Json.isNull_iff]

theorem Shape.isNormal_list_iff :
    (list item).isNormal j = true ↔
      ∃ items, j = .array items ∧ ∀ x ∈ items, item.isNormal x = true := by
  cases j <;> simp

theorem Shape.isNormal_record_iff :
    (record title fields).isNormal j = true ↔
      ∃ entries, j = .object entries ∧ fields.isNormal entries = true := by
  cases j <;> simp

theorem Shape.isNormal_variants_iff :
    (variants key branches).isNormal j = true ↔
      ∃ entries, j = .object entries ∧ branches.isNormal (j.get key) entries = true := by
  cases j <;> simp

end

/-! ## Coherence -/

/-- The names that a field answers to. -/
def FieldSpec.keys (spec : FieldSpec) : List String := spec.name :: spec.serialName.toList

/-- What stands for a field that is left out is in normal form, and the absent value wherever the
field may hold that. -/
def FieldSpec.standsIn (spec : FieldSpec) (shape : Shape) : Bool :=
  match spec.default with
  | some value => shape.isNormal value && (value.isNull || !shape.isNormal .null)
  | none => !shape.isNormal .null

/-- The names that the fields of a record answer to. -/
def Fields.keys : Fields → List String
  | .nil => []
  | .cons spec _ rest => spec.keys ++ rest.keys

/-- Whether a record begins with a tag under a key, written under no other name. -/
def Fields.beginsWith (key : String) (tag : Tag) : Fields → Bool
  | .cons spec (.literal first) _ =>
    spec.name == key && spec.serialName.isNone && first == tag
  | _ => false

mutual

/-- Whether a shape is coherent in all of its parts. -/
def Shape.isCoherent : Shape → Bool
  | .text | .flag | .document | .literal _ => true
  | .nullable inner => inner.isCoherent
  | .list item => item.isCoherent
  | .record _ fields => fields.isCoherent
  | .variants key branches => branches.isCoherent key

/-- Whether the fields of a record answer to different names and stand in for themselves. -/
def Fields.isCoherent : Fields → Bool
  | .nil => true
  | .cons spec shape rest =>
    spec.standsIn shape && spec.keys.all (!rest.keys.contains ·) && shape.isCoherent
      && rest.isCoherent

/-- Whether the classes of a union begin with the tags that select them. -/
def Branches.isCoherent (key : String) : Branches → Bool
  | .nil => true
  | .cons tag fields rest =>
    fields.beginsWith key tag && fields.isCoherent && rest.isCoherent key

end

theorem FieldSpec.mem_keys {spec : FieldSpec} {key : String} :
    key ∈ spec.keys ↔ key = spec.name ∨ spec.serialName = some key := by
  rw [keys, List.mem_cons, Option.mem_toList]

theorem Fields.isCoherent_cons {spec : FieldSpec} {shape : Shape} {rest : Fields} :
    (Fields.cons spec shape rest).isCoherent = true ↔
      spec.standsIn shape = true ∧ (∀ key ∈ spec.keys, key ∉ rest.keys) ∧
        shape.isCoherent = true ∧ rest.isCoherent = true := by
  simp [isCoherent, and_assoc]

theorem Branches.isCoherent_cons {key : String} {tag : Tag} {fields : Fields} {rest : Branches} :
    (Branches.cons tag fields rest).isCoherent key = true ↔
      fields.beginsWith key tag = true ∧ fields.isCoherent = true ∧
        rest.isCoherent key = true := by
  simp [isCoherent, and_assoc]

theorem Fields.exists_of_beginsWith {key : String} {tag : Tag} {fields : Fields}
    (h : fields.beginsWith key tag = true) :
    ∃ value rest, fields = .cons ⟨key, none, value⟩ (.literal tag) rest := by
  unfold beginsWith at h
  split at h
  · next spec first rest =>
    obtain ⟨name, serialName, value⟩ := spec
    simp only [Bool.and_eq_true, beq_iff_eq, Option.isNone_iff_eq_none] at h
    obtain ⟨⟨rfl, rfl⟩, rfl⟩ := h
    exact ⟨value, rest, rfl⟩
  · exact absurd h Bool.false_ne_true

theorem Tag.isWritten_iff {tag : Tag} {j : Json} :
    tag.isWritten j = true ↔ j = .text tag.value := by
  cases j <;> simp [isWritten]

/-! ## Validation yields normal forms -/

theorem Shape.list_issues_eq_nil_iff {item : Shape} {items : List Json} :
    (Shape.list item).issues (.array items) = [] ↔ ∀ x ∈ items, item.issues x = [] := by
  simp only [issues, List.flatMap_eq_nil_iff, List.map_eq_nil_iff, Prod.forall]
  constructor
  · intro h x hx
    obtain ⟨i, hi⟩ := List.mem_iff_getElem?.1 hx
    exact h x i (List.mk_mem_zipIdx_iff_getElem?.2 hi)
  · intro h x i hxi
    exact h x (List.fst_mem_of_mem_zipIdx hxi)

theorem Fields.issues_cons_eq_nil_iff {spec : FieldSpec} {shape : Shape} {rest : Fields}
    {entries : List (String × Json)} :
    (Fields.cons spec shape rest).issues entries = [] ↔
      (∀ entry, spec.find? entries = some entry → shape.issues entry.2 = []) ∧
        (spec.find? entries = none → spec.default.isSome = true) ∧
        rest.issues entries = [] := by
  rw [issues, List.append_eq_nil_iff]
  cases spec.find? entries with
  | some entry => simp
  | none => cases spec.default <;> simp

/-- A field with one name is read from the entry under that name. -/
theorem FieldSpec.find?_of_noSerialName {name : String} {default : Option Json}
    {entries : List (String × Json)} :
    (FieldSpec.mk name none default).find? entries
      = (entries.lookup name).map fun value ↦ (name, value) := by
  simp [find?]

mutual

/-- What validation yields is in normal form. -/
theorem Shape.isNormal_normal : ∀ {shape : Shape} {j : Json}, shape.isCoherent = true →
    shape.issues j = [] → shape.isNormal (shape.normal j) = true
  | .text, j, _, h => by
    obtain ⟨s, rfl⟩ := (Shape.text_issues_eq_nil_iff j).1 h
    rfl
  | .flag, j, _, h => by
    simp only [Shape.issues] at h
    simp only [Shape.normal, Shape.isNormal]
    cases hread : readFlag j with
    | ok b => rfl
    | error reason => simp [hread] at h
  | .document, j, _, h => by
    cases j with
    | object entries => rfl
    | _ => simp [Shape.issues] at h
  | .literal tag, j, _, h => by
    simpa [Shape.issues, Shape.normal, Shape.isNormal] using h
  | .nullable inner, j, hc, h => by
    simp only [Shape.issues, Shape.normal, Shape.isNormal] at h ⊢
    by_cases hnull : j.isNull = true
    · simp [hnull]
    · have hinner : inner.isCoherent = true := hc
      rw [if_neg hnull] at h ⊢
      rw [Shape.isNormal_normal hinner h, Bool.or_true]
  | .list item, j, hc, h => by
    cases j with
    | array items =>
      have hitems := Shape.list_issues_eq_nil_iff.1 h
      simp only [Shape.normal, Shape.isNormal, List.all_map, List.all_eq_true]
      intro x hx
      exact Shape.isNormal_normal hc (hitems x hx)
    | _ => simp [Shape.issues] at h
  | .record _ fields, j, hc, h => by
    cases j with
    | object entries => exact Fields.isNormal_normal hc h
    | _ => simp [Shape.issues] at h
  | .variants key branches, j, hc, h => by
    cases j with
    | object entries =>
      simp only [Shape.issues] at h
      split at h
      · next found hfound =>
        obtain ⟨hlookup, hnormal⟩ := Branches.isNormal_normal hc hfound h
        simp only [Shape.normal, Shape.isNormal, Json.get_object, hfound, Option.getD_some,
          hlookup]
        exact hnormal
      · simp at h
    | _ => simp [Shape.issues] at h

/-- The entries that validation yields are in normal form. -/
theorem Fields.isNormal_normal : ∀ {fields : Fields} {entries : List (String × Json)},
    fields.isCoherent = true → fields.issues entries = [] →
      fields.isNormal (fields.normal entries) = true
  | .nil, _, _, _ => rfl
  | .cons spec shape rest, entries, hc, h => by
    obtain ⟨hstands, -, hshape, hrest⟩ := Fields.isCoherent_cons.1 hc
    obtain ⟨hgiven, hleft, hothers⟩ := Fields.issues_cons_eq_nil_iff.1 h
    -- given or left out, the field gets a value in normal form
    have hvalue : shape.isNormal
        (match spec.find? entries with
          | some (_, value) => shape.normal value
          | none => spec.default.getD .null) = true := by
      cases hfind : spec.find? entries with
      | some entry => exact Shape.isNormal_normal hshape (hgiven entry hfind)
      | none =>
        obtain ⟨value, hdefault⟩ := Option.isSome_iff_exists.1 (hleft hfind)
        simp only [FieldSpec.standsIn, hdefault, Bool.and_eq_true] at hstands
        simpa [hdefault] using hstands.1
    simp only [Fields.normal, Fields.isNormal, beq_self_eq_true, Bool.true_and, Bool.and_eq_true]
    exact ⟨hvalue, Fields.isNormal_normal hrest hothers⟩

/-- The entries that validation yields for an object of a union are in normal form and say what
the object said. -/
theorem Branches.isNormal_normal : ∀ {branches : Branches} {key key' : String}
    {known : List Tag} {found : Json} {entries : List (String × Json)},
    branches.isCoherent key = true → entries.lookup key = some found →
      branches.issues key' known found entries = [] →
        (branches.normal found entries).lookup key = some found ∧
          branches.isNormal found (branches.normal found entries) = true
  | .nil, _, _, _, _, _, _, _, h => by simp [Branches.issues] at h
  | .cons tag fields rest, key, key', known, found, entries, hc, hfound, h => by
    obtain ⟨hbegins, hfields, hrest⟩ := Branches.isCoherent_cons.1 hc
    simp only [Branches.issues, Branches.normal, Branches.isNormal] at h ⊢
    by_cases hsays : tag.isWritten found = true
    · simp only [if_pos hsays, List.map_eq_nil_iff] at h ⊢
      refine ⟨?_, Fields.isNormal_normal hfields h⟩
      -- the tag is the first of the fields and is read from its own entry
      obtain ⟨value, others, rfl⟩ := Fields.exists_of_beginsWith hbegins
      simp [Fields.normal, FieldSpec.find?_of_noSerialName, hfound, Shape.normal]
    · simp only [if_neg hsays] at h ⊢
      exact Branches.isNormal_normal hrest hfound h

end

end Schema

open Schema

/-- The classes are coherent, apart from the settings. -/
theorem RecordClass.isCoherent_shape {c : RecordClass} (hc : c ≠ .settings) :
    c.shape.isCoherent = true :=
  have h : ∀ c ∈ RecordClass.all, c ≠ .settings → c.shape.isCoherent = true := by decide +kernel
  h c c.mem_all hc

/-- The version of a content model may be absent in the settings, but is not when left out. -/
example : RecordClass.settings.shape.isCoherent = false := by decide +kernel

end WorkflowArtifacts
