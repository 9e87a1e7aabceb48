import Mathlib.Data.List.Forall2
import WorkflowArtifacts.Proofs.Schema.NormalForm

/-!
# Process graphs are validated element by element

Three validators meet in a process graph: that of the process, that of a list, and that of the union
of the element classes, which hands over to the validator of one class. Each leaves alone what the
next one says, apart from putting a step in front of every place. So the issues of a process are
those of its elements, one after the other, and the issues of an element are those that the class of
its tag finds.

## Unions

A union goes through its classes in order until it meets a tag that the object has
(`Branches.select?`). What it reports and what it yields both follow from the class that it meets,
and without one there is a single issue.
-/

namespace WorkflowArtifacts

open Schema

namespace Schema

/-! ## Reports -/

/-- What an outcome of validation reports; an accepted document has no issues. -/
def reported : Except Failure Json → List Issue
  | .ok _ => []
  | .error failure => failure.issues

section

variable {shape : Shape} {title : String} {j : Json}

theorem Shape.validate_eq_error_iff {failure : Failure} :
    shape.validate title j = .error failure ↔
      shape.issues j ≠ [] ∧ failure = ⟨title, shape.issues j⟩ := by
  rw [validate]
  split
  · next h => simp [h]
  · next issues hne =>
    rw [Except.error.injEq]
    exact ⟨fun heq ↦ ⟨hne, heq.symm⟩, fun heq ↦ heq.2.symm⟩

theorem Shape.validate_ok_iff : (∃ document, shape.validate title j = .ok document) ↔
    shape.issues j = [] := by
  constructor
  · rintro ⟨document, h⟩
    exact (Shape.validate_eq_ok_iff.1 h).1
  · intro h
    exact ⟨_, Shape.validate_eq_ok_iff.2 ⟨h, rfl⟩⟩

@[simp] theorem reported_validate : reported (shape.validate title j) = shape.issues j := by
  rw [Shape.validate]
  split
  · next h => rw [reported, h]
  · rfl

/-- Where one shape reports on a document what another one does on its own, moved by `place`, and
both come to the same normal form if there is nothing to report, their outcomes differ in the places
only. -/
theorem Shape.validate_eq_mapError {other : Shape} {k : Json} {place : Issue → Issue}
    (hissues : shape.issues j = (other.issues k).map place)
    (hnormal : other.issues k = [] → shape.normal j = other.normal k) (otherTitle : String) :
    shape.validate title j = (other.validate otherTitle k).mapError fun failure ↦
      ⟨title, failure.issues.map place⟩ := by
  by_cases h : other.issues k = []
  · have hnil : shape.issues j = [] := by rw [hissues, h, List.map_nil]
    rw [Shape.validate_eq_ok_iff.2 ⟨hnil, (hnormal h).symm⟩, Shape.validate_eq_ok_iff.2 ⟨h, rfl⟩]
    rfl
  · have hne : shape.issues j ≠ [] := by
      rw [hissues]
      exact h ∘ List.map_eq_nil_iff.1
    rw [Shape.validate_eq_error_iff.2 ⟨hne, rfl⟩, Shape.validate_eq_error_iff.2 ⟨h, rfl⟩, hissues]
    rfl

end

/-! ## Unions -/

/-- The first class of a union whose tag an object has, given what the object says about its
kind. -/
def Branches.select? (found : Json) : Branches → Option (Tag × Fields)
  | .nil => none
  | .cons tag fields rest => if tag.isWritten found then some (tag, fields) else rest.select? found

section

variable {key : String} {known : List Tag} {found : Json} {tag : Tag} {fields : Fields}
  {entries : List (String × Json)}

/-- What holds of a union that begins with the selected class, and still does with another class put
in front, holds of every union that the class is selected from. -/
@[elab_as_elim]
theorem Branches.select?_induction {motive : Branches → Prop} : ∀ {branches : Branches},
    branches.select? found = some (tag, fields) →
      (∀ rest, tag.isWritten found = true → motive (.cons tag fields rest)) →
      (∀ first others rest, ¬ first.isWritten found = true → motive rest →
        motive (.cons first others rest)) → motive branches
  | .cons first others rest, h, here, later => by
    rw [select?] at h
    split at h
    · next htag =>
      cases h
      exact here rest htag
    · next htag => exact later first others rest htag (select?_induction h here later)

variable {branches : Branches}

/-- What a union reports is what the selected class does, under the tag. -/
theorem Branches.issues_of_select? (h : branches.select? found = some (tag, fields)) :
    branches.issues key known found entries
      = (fields.issues entries).map (·.under (.key tag.value)) := by
  refine select?_induction h (fun rest htag ↦ ?_) fun first others rest htag ih ↦ ?_
  · rw [issues, if_pos htag]
  · rw [issues, if_neg htag, ih]

theorem Branches.normal_of_select? (h : branches.select? found = some (tag, fields)) :
    branches.normal found entries = fields.normal entries := by
  refine select?_induction h (fun rest htag ↦ ?_) fun first others rest htag ih ↦ ?_
  · rw [normal, if_pos htag]
  · rw [normal, if_neg htag, ih]

/-- A selected class has the tag that the object says. -/
theorem Branches.found_of_select? (h : branches.select? found = some (tag, fields)) :
    found = .text tag.value :=
  select?_induction h (fun _ htag ↦ Tag.isWritten_iff.1 htag) fun _ _ _ _ ih ↦ ih

/-- An object that has none of the tags has no other issue. -/
theorem Branches.issues_of_select?_eq_none : ∀ {branches : Branches},
    branches.select? found = none →
      branches.issues key known found entries = [.here (.unknownTag key found.display known)]
  | .nil, _ => rfl
  | .cons first _ rest, h => by
    rw [select?] at h
    rw [issues]
    split at h
    · cases h
    · next htag => rw [if_neg htag, issues_of_select?_eq_none h]

end

/-! ## Fields -/

section

variable {name : String} {rest : List (FieldSpec × Shape)} {entries : List (String × Json)}

/-- A text that may be left out has no issue if it is one or absent. -/
theorem Fields.issues_optional_text
    (h : ∀ value, entries.lookup name = some value → value.IsTextOrAbsent) :
    (ofList (optional name .text :: rest)).issues entries = (ofList rest).issues entries := by
  simp only [ofList, optional, defaulted, issues, FieldSpec.find?_of_noSerialName]
  rcases hvalue : entries.lookup name with _ | value
  · rfl
  · have hnone : (Shape.nullable .text).issues value = [] :=
      (Shape.nullable_text_issues_eq_nil_iff value).2 (Json.isTextOrAbsent_iff.1 (h value hvalue))
    simp only [Option.map_some, hnone, List.map_nil, List.nil_append]

theorem Fields.normal_optional_text :
    (ofList (optional name .text :: rest)).normal entries
      = (name, (entries.lookup name).getD .null) :: (ofList rest).normal entries := by
  simp only [ofList, optional, defaulted, normal, FieldSpec.find?_of_noSerialName]
  rcases entries.lookup name with _ | value
  · rfl
  · simp only [Option.map_some, Shape.nullable_text_normal, Option.getD_some]

theorem Fields.issues_listing {item : Shape} {items : List Json}
    (h : entries.lookup name = some (.array items)) :
    (ofList (listing name item :: rest)).issues entries
      = ((Shape.list item).issues (.array items)).map (·.under (.key name))
        ++ (ofList rest).issues entries := by
  simp only [ofList, listing, defaulted, issues, FieldSpec.find?_of_noSerialName, h,
    Option.map_some]

theorem Fields.normal_listing {item : Shape} {items : List Json}
    (h : entries.lookup name = some (.array items)) :
    (ofList (listing name item :: rest)).normal entries
      = (name, .array (items.map item.normal)) :: (ofList rest).normal entries := by
  simp only [ofList, listing, defaulted, normal, FieldSpec.find?_of_noSerialName, h,
    Option.map_some, Shape.normal]

end

end Schema

namespace RecordClass

/-! ## Elements -/

/-- The classes of elements. -/
def elementBranches : Branches := .ofList (ElementKind.all.map fun kind ↦ (kind.tag, kind.fields))

theorem select?_of_kind (kind : ElementKind) :
    elementBranches.select? (.text kind.tag.value) = some (kind.tag, kind.fields) := by
  cases kind <;> rfl

theorem select?_eq_none {found : Json} (h : ∀ kind : ElementKind, found ≠ .text kind.tag.value) :
    elementBranches.select? found = none := by
  have htag (kind : ElementKind) : ¬ kind.tag.isWritten found = true :=
    fun htag ↦ h kind (Tag.isWritten_iff.1 htag)
  simp only [elementBranches, ElementKind.all, List.map_cons, List.map_nil, Branches.ofList,
    Branches.select?, if_neg (htag _)]

/-- Whether an item is an object that says it is of one of the kinds. -/
def IsOfKind (item : Json) (kind : ElementKind) : Prop :=
  ∃ entries, item = .object entries ∧ entries.lookup "type" = some (.text kind.tag.value)

/-- An object of a known kind is validated by the class of the kind, and the tag is put in front of
every place. -/
theorem element_validate_of_isOfKind {item : Json} {kind : ElementKind} (h : IsOfKind item kind) :
    element.validate item = ((elementOf kind).validate item).mapError fun failure ↦
      ⟨element.title, failure.issues.map (·.under (.key kind.tag.value))⟩ := by
  obtain ⟨entries, rfl, htype⟩ := h
  apply Shape.validate_eq_mapError
  · simp only [shape, Shapes.element, Shape.issues, htype]
    exact Branches.issues_of_select? (select?_of_kind kind)
  · intro _
    change Json.object (elementBranches.normal ((Json.object entries).get "type") entries)
      = .object (kind.fields.normal entries)
    rw [Json.get_object, htype]
    exact congrArg Json.object (Branches.normal_of_select? (select?_of_kind kind))

/-- Anything else has a single issue. -/
theorem element_validate_of_not_isOfKind {item : Json} (h : ∀ kind, ¬ IsOfKind item kind) :
    ∃ issue, element.validate item = .error ⟨element.title, [issue]⟩ := by
  suffices hissue : ∃ issue, element.shape.issues item = [issue] by
    obtain ⟨issue, hissue⟩ := hissue
    refine ⟨issue, Shape.validate_eq_error_iff.2 ⟨?_, by rw [hissue]⟩⟩
    rw [hissue]
    exact List.cons_ne_nil _ _
  cases item with
  | object entries =>
    rcases htype : entries.lookup "type" with _ | found
    · refine ⟨.here (.noTag "type"), ?_⟩
      simp only [shape, Shapes.element, Shape.issues, htype]
    · have hunknown (kind : ElementKind) : found ≠ .text kind.tag.value := by
        rintro rfl
        exact h kind ⟨entries, rfl, htype⟩
      refine ⟨.here (.unknownTag "type" found.display elementBranches.tags), ?_⟩
      simp only [shape, Shapes.element, Shape.issues, htype]
      exact Branches.issues_of_select?_eq_none (select?_eq_none hunknown)
  | _ => exact ⟨.here .notTagged, rfl⟩

/-! ## Process graphs -/

/-- A process whose id and name may stand reports what its list of elements does. -/
theorem process_issues {entries : List (String × Json)} {items : List Json}
    (helements : entries.lookup "flow_elements" = some (.array items))
    (hid : ∀ id, entries.lookup "id" = some id → id.IsTextOrAbsent)
    (hname : ∀ name, entries.lookup "name" = some name → name.IsTextOrAbsent) :
    process.shape.issues (.object entries)
      = ((Shape.list element.shape).issues (.array items)).map
          (·.under (.key "flow_elements")) := by
  change (Fields.ofList [optional "id" .text, optional "name" .text,
    listing "flow_elements" element.shape]).issues entries = _
  rw [Fields.issues_optional_text hid, Fields.issues_optional_text hname,
    Fields.issues_listing helements]
  exact List.append_nil _

theorem process_normal {entries : List (String × Json)} {items : List Json}
    (helements : entries.lookup "flow_elements" = some (.array items)) :
    process.shape.normal (.object entries)
      = .object [("id", (entries.lookup "id").getD .null),
          ("name", (entries.lookup "name").getD .null),
          ("flow_elements", .array (items.map element.shape.normal))] := by
  change Json.object ((Fields.ofList [optional "id" .text, optional "name" .text,
    listing "flow_elements" element.shape]).normal entries) = _
  rw [Fields.normal_optional_text, Fields.normal_optional_text, Fields.normal_listing helements]
  rfl

/-- **A process graph is validated element by element.** If the id and the name may stand, then a
process is accepted exactly if each of its elements is accepted as one, and holds what these amount
to, in order. Otherwise it is refused for what its elements are refused for, one after the other and
in their places. An element that says it is of a kind is accepted as what it amounts to in the class
of that kind, or refused for what it is refused for there, under the tag; anything else is refused
for one thing. -/
theorem process_validate_elements {entries : List (String × Json)} {items : List Json}
    (helements : entries.lookup "flow_elements" = some (.array items))
    (hid : ∀ id, entries.lookup "id" = some id → id.IsTextOrAbsent)
    (hname : ∀ name, entries.lookup "name" = some name → name.IsTextOrAbsent) :
    ((∃ document, process.validate (.object entries) = .ok document) ↔
      ∀ item ∈ items, ∃ document, element.validate item = .ok document) ∧
    (∀ document, process.validate (.object entries) = .ok document →
      ∃ documents, List.Forall₂ (fun item d ↦ element.validate item = .ok d) items documents ∧
        document = .object [("id", (entries.lookup "id").getD .null),
          ("name", (entries.lookup "name").getD .null), ("flow_elements", .array documents)]) ∧
    (∀ failure, process.validate (.object entries) = .error failure →
      failure = ⟨"Process", items.zipIdx.flatMap fun (item, i) ↦
        (reported (element.validate item)).map fun issue ↦
          (issue.under (.index i)).under (.key "flow_elements")⟩) ∧
    (∀ item kind, IsOfKind item kind →
      element.validate item = ((elementOf kind).validate item).mapError fun failure ↦
        ⟨element.title, failure.issues.map (·.under (.key kind.tag.value))⟩) ∧
    ∀ item, (∀ kind, ¬ IsOfKind item kind) →
      ∃ issue, element.validate item = .error ⟨element.title, [issue]⟩ := by
  have hissues := process_issues helements hid hname
  have haccepted : process.shape.issues (.object entries) = [] ↔
      ∀ item ∈ items, ∃ document, element.validate item = .ok document := by
    rw [hissues, List.map_eq_nil_iff, Shape.list_issues_eq_nil_iff]
    exact forall₂_congr fun item _ ↦ Shape.validate_ok_iff.symm
  refine ⟨Shape.validate_ok_iff.trans haccepted, ?_, ?_,
    fun item kind h ↦ element_validate_of_isOfKind h,
    fun item h ↦ element_validate_of_not_isOfKind h⟩
  · intro document h
    obtain ⟨hnil, rfl⟩ := Shape.validate_eq_ok_iff.1 h
    refine ⟨items.map element.shape.normal, ?_, process_normal helements⟩
    rw [List.forall₂_map_right_iff, List.forall₂_same]
    intro item hitem
    obtain ⟨d, hd⟩ := haccepted.1 hnil item hitem
    obtain ⟨-, rfl⟩ := Shape.validate_eq_ok_iff.1 hd
    exact hd
  · intro failure h
    have hreported (item : Json) : reported (element.validate item) = element.shape.issues item :=
      reported_validate
    rw [(Shape.validate_eq_error_iff.1 h).2, hissues]
    simp only [Shape.issues, List.map_flatMap, List.map_map, Function.comp_def, hreported]
    rfl

/-- A process with a start event, a task that lacks its id and has a number for a name, and a number
in the place of an element. -/
def withRefusedElements : List (String × Json) :=
  [("id", .text "review"),
    ("flow_elements", .array
      [.object [("type", .text "start_event"), ("id", .text "begin")],
        .object [("name", .int 3), ("type", .text "user_task")], .int 7])]

/-- The task is refused for two things and the number for one. -/
theorem process_validate_elements_refused :
    process.validate (.object withRefusedElements) = .error ⟨"Process",
      [⟨[.key "flow_elements", .index 1, .key "user_task", .key "id"], .missing⟩,
        ⟨[.key "flow_elements", .index 1, .key "user_task", .key "name"], .notText⟩,
        ⟨[.key "flow_elements", .index 2], .notTagged⟩]⟩ := by
  obtain ⟨haccepted, -, hrefused, -⟩ := @process_validate_elements withRefusedElements
    [.object [("type", .text "start_event"), ("id", .text "begin")],
      .object [("name", .int 3), ("type", .text "user_task")], .int 7] rfl
    (by rintro id ⟨⟩; exact .inr ⟨"review", rfl⟩) (by rintro name ⟨⟩)
  rcases h : process.validate (.object withRefusedElements) with failure | document
  · rw [hrefused failure h]
    rfl
  · obtain ⟨d, hd⟩ := haccepted.1 ⟨document, h⟩ (.int 7) (by simp)
    cases hd

end RecordClass

end WorkflowArtifacts
