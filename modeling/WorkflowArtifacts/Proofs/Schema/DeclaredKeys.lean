import Mathlib.Data.List.Forall2
import WorkflowArtifacts.Proofs.Schema.Spelling

/-!
# Validation reads the fields and nothing else

Two documents agree when every field of every record in them is given the same value, whatever name
it is given under and whatever else the objects hold (`Shape.Agree`). Documents that agree have the
same serializer's form, so validation comes to the same outcome for both: the same document, or the
same issues in the same order, in places that differ at most in the names of fields.

An entry under a field's own name that stands next to one under the serializer's name is not read
either, and no issue is ever reported at it or inside it (`Shape.not_shadowed`).
-/

namespace WorkflowArtifacts

open Schema

namespace Schema

/-! ## Documents that agree -/

mutual

/-- Whether two documents give the same values to all fields that the shape describes. Where it
describes none, they have to be the same. -/
def Shape.Agree : Shape → Json → Json → Prop
  | .nullable inner, j, k => inner.Agree j k
  | .list item, j, k =>
    j = k ∨ ∃ xs ys, j = .array xs ∧ k = .array ys ∧ List.Forall₂ item.Agree xs ys
  | .record _ fields, j, k =>
    j = k ∨ ∃ entries others, j = .object entries ∧ k = .object others ∧
      fields.Agree entries others
  | .variants key branches, j, k =>
    j = k ∨ ∃ entries others, j = .object entries ∧ k = .object others ∧
      entries.lookup key = others.lookup key ∧
      ∀ found, entries.lookup key = some found → branches.Agree found entries others
  | .text, j, k | .flag, j, k | .document, j, k | .literal _, j, k => j = k

/-- Whether the entries of two objects give each field of a record the same value, or both none. -/
def Fields.Agree : Fields → List (String × Json) → List (String × Json) → Prop
  | .nil, _, _ => True
  | .cons spec shape rest, entries, others =>
    Option.Rel shape.Agree (spec.given entries) (spec.given others) ∧ rest.Agree entries others

/-- Whether the entries of two objects that say they are `found` give each field of their class the
same value. -/
def Branches.Agree (found : Json) :
    Branches → List (String × Json) → List (String × Json) → Prop
  | .nil, _, _ => True
  | .cons tag fields rest, entries, others =>
    if tag.isWritten found then fields.Agree entries others else rest.Agree found entries others

end

mutual

/-- Documents that agree have the same serializer's form. -/
theorem Shape.Agree.respell_eq : ∀ {shape : Shape} {j k : Json}, shape.Agree j k →
    shape.respell j = shape.respell k
  | .text, _, _, h | .flag, _, _, h | .document, _, _, h | .literal _, _, _, h => h
  | .nullable inner, j, k, h => by
    have hinner : inner.Agree j k := h
    have heq : inner.respell j = inner.respell k := Shape.Agree.respell_eq hinner
    exact heq
  | .list item, j, k, h => by
    rcases h with rfl | ⟨xs, ys, rfl, rfl, hitems⟩
    · rfl
    · rw [Shape.respell, Shape.respell]
      congr 1
      rw [← List.forall₂_eq_eq_eq, List.forall₂_map_left_iff, List.forall₂_map_right_iff]
      exact hitems.imp fun _ _ hxy ↦ Shape.Agree.respell_eq hxy
  | .record title fields, j, k, h => by
    rcases h with rfl | ⟨entries, others, rfl, rfl, hfields⟩
    · rfl
    · exact congrArg Json.object (Fields.Agree.respell_eq hfields)
  | .variants key branches, j, k, h => by
    rcases h with rfl | ⟨entries, others, rfl, rfl, hsame, hbranches⟩
    · rfl
    · rcases hfound : entries.lookup key with _ | found
      · simp only [Shape.respell, ← hsame, hfound]
      · simp only [Shape.respell, ← hsame, hfound,
          Branches.Agree.respell_eq key (hbranches found hfound)]

theorem Fields.Agree.respell_eq : ∀ {fields : Fields} {entries others : List (String × Json)},
    fields.Agree entries others → fields.respell entries = fields.respell others
  | .nil, _, _, _ => rfl
  | .cons spec shape rest, entries, others, h => by
    obtain ⟨hgiven, hrest⟩ := h
    rw [Fields.respell, Fields.respell, Fields.Agree.respell_eq hrest]
    generalize spec.given entries = first, spec.given others = second at hgiven ⊢
    rcases hgiven with hvalue | _
    · simp only [Shape.Agree.respell_eq hvalue]
    · rfl

theorem Branches.Agree.respell_eq : ∀ {branches : Branches} (key : String) {found : Json}
    {entries others : List (String × Json)}, branches.Agree found entries others →
      branches.respell key found entries = branches.respell key found others
  | .nil, _, _, _, _, _ => rfl
  | .cons tag fields rest, key, found, entries, others, h => by
    rw [Branches.Agree] at h
    rw [Branches.respell, Branches.respell]
    split at h
    · next htag => rw [if_pos htag, if_pos htag, Fields.Agree.respell_eq h]
    · next htag => rw [if_neg htag, if_neg htag, Branches.Agree.respell_eq key h]

end

theorem Fields.agree_cons_of_notMem {key : String} {value : Json}
    {entries others : List (String × Json)} : ∀ {fields : Fields}, key ∉ fields.keys →
      fields.Agree entries others → fields.Agree entries ((key, value) :: others)
  | .nil, _, h => h
  | .cons spec shape rest, hkey, h => by
    rw [keys, List.mem_append, not_or] at hkey
    obtain ⟨hgiven, hrest⟩ := h
    refine ⟨?_, agree_cons_of_notMem hkey.2 hrest⟩
    rwa [FieldSpec.given_eq spec (_ :: others), FieldSpec.find?_cons_of_notMem hkey.1,
      ← FieldSpec.given_eq]

mutual

/-- A document agrees with its serializer's form. -/
theorem Shape.agree_respell : ∀ {shape : Shape} {j : Json}, shape.isUnambiguous = true →
    shape.Agree j (shape.respell j)
  | .text, _, _ | .flag, _, _ | .document, _, _ | .literal _, _, _ => rfl
  | .nullable inner, j, h => by
    have hinner : inner.isUnambiguous = true := h
    have hagree : inner.Agree j (inner.respell j) := Shape.agree_respell hinner
    exact hagree
  | .list item, j, h => by
    have hitem : item.isUnambiguous = true := h
    rcases j with _ | _ | _ | _ | items | _
    case array =>
      refine .inr ⟨items, items.map item.respell, rfl, rfl, ?_⟩
      rw [List.forall₂_map_right_iff, List.forall₂_same]
      exact fun x _ ↦ Shape.agree_respell hitem
    all_goals exact .inl rfl
  | .record title fields, j, h => by
    have hfields : fields.isUnambiguous = true := h
    rcases j with _ | _ | _ | _ | _ | entries
    case object => exact .inr ⟨entries, _, rfl, rfl, Fields.agree_respell hfields⟩
    all_goals exact .inl rfl
  | .variants key branches, j, h => by
    have hbranches : branches.isUnambiguous key = true := h
    rcases j with _ | _ | _ | _ | _ | entries
    case object =>
      rcases hfound : entries.lookup key with _ | found
      · refine .inr ⟨entries, [], rfl, by simp only [Shape.respell, hfound], hfound, ?_⟩
        rw [hfound]
        exact nofun
      · obtain ⟨hkeeps, hagree⟩ := Branches.agree_respell hbranches hfound
        refine .inr ⟨entries, branches.respell key found entries, rfl,
          by simp only [Shape.respell, hfound], hfound.trans hkeeps.symm, ?_⟩
        rw [hfound]
        rintro _ ⟨⟩
        exact hagree
    all_goals exact .inl rfl

theorem Fields.agree_respell : ∀ {fields : Fields} {entries : List (String × Json)},
    fields.isUnambiguous = true → fields.Agree entries (fields.respell entries)
  | .nil, _, _ => trivial
  | .cons spec shape rest, entries, h => by
    obtain ⟨hkeys, hshape, hrest⟩ := Fields.isUnambiguous_cons.1 h
    have hwritten : spec.writtenName ∉ rest.keys := hkeys _ spec.writtenName_mem_keys
    have hothers : rest.Agree entries (rest.respell entries) := Fields.agree_respell hrest
    rw [Fields.Agree, FieldSpec.given_eq, FieldSpec.given_eq, Fields.find?_respell hkeys]
    rcases hfind : spec.find? entries with _ | ⟨key, value⟩
    · rw [Fields.respell_of_find?_eq_none hfind]
      exact ⟨.none, hothers⟩
    · rw [Fields.respell_of_find? hfind]
      exact ⟨.some (Shape.agree_respell hshape), Fields.agree_cons_of_notMem hwritten hothers⟩

theorem Branches.agree_respell : ∀ {branches : Branches} {key : String} {found : Json}
    {entries : List (String × Json)}, branches.isUnambiguous key = true →
      entries.lookup key = some found →
        (branches.respell key found entries).lookup key = some found ∧
          branches.Agree found entries (branches.respell key found entries)
  | .nil, _, _, _, _, _ => ⟨List.lookup_cons_self, trivial⟩
  | .cons tag fields rest, key, found, entries, h, hfound => by
    obtain ⟨hbegins, hfields, hrest⟩ := Branches.isUnambiguous_cons.1 h
    rw [Branches.respell, Branches.Agree]
    split
    · exact ⟨Fields.lookup_respell_of_beginsWith hbegins hfound, Fields.agree_respell hfields⟩
    · exact Branches.agree_respell hrest hfound

end

/-! ## Entries that are not read -/

/-- Whether a field goes by another name for the serializer, and an object has an entry under it. -/
def FieldSpec.IsShadowed (spec : FieldSpec) (entries : List (String × Json)) : Prop :=
  ∃ serialName, spec.serialName = some serialName ∧ serialName ≠ spec.name ∧
    (entries.lookup serialName).isSome

mutual

/-- Whether the way to a place in a document leads through an entry that is not read, because the
same object has one under the serializer's name of the field. -/
def Shape.Shadowed : Shape → Json → List Step → Prop
  | .nullable inner, j, path => inner.Shadowed j path
  | .list item, j, path =>
    match path with
    | .index i :: inside => ∃ x, j.items[i]? = some x ∧ item.Shadowed x inside
    | _ => False
  | .record _ fields, j, path => fields.Shadowed j.entries path
  | .variants _ branches, j, path =>
    match path with
    | .key tag :: inside => branches.Shadowed tag j.entries inside
    | _ => False
  | .text, _, _ | .flag, _, _ | .document, _, _ | .literal _, _, _ => False

/-- Whether the way to a place in a record leads through an entry that is not read. -/
def Fields.Shadowed : Fields → List (String × Json) → List Step → Prop
  | .nil, _, _ => False
  | .cons spec shape rest, entries, path =>
    match path with
    | .key key :: inside =>
      if key ∈ spec.keys then
        (key = spec.name ∧ spec.IsShadowed entries) ∨
          ∃ value, entries.lookup key = some value ∧ shape.Shadowed value inside
      else rest.Shadowed entries path
    | _ => False

/-- Whether the way to a place in an object with a tag leads through an entry that is not read. -/
def Branches.Shadowed (tag : String) : Branches → List (String × Json) → List Step → Prop
  | .nil, _, _ => False
  | .cons first fields rest, entries, path =>
    if first.value = tag then fields.Shadowed entries path else rest.Shadowed tag entries path

end

theorem FieldSpec.not_isShadowed_of_find? {spec : FieldSpec} {value : Json}
    {entries : List (String × Json)} (h : spec.find? entries = some (spec.name, value)) :
    ¬ spec.IsShadowed entries := by
  rintro ⟨serialName, hserial, hne, hgiven⟩
  rcases (find?_eq_some_iff.1 h).2 with hname | ⟨-, hnone⟩
  · rw [hname, Option.some.injEq] at hserial
    exact hne hserial.symm
  · rw [hnone serialName hserial] at hgiven
    cases hgiven

theorem FieldSpec.lookup_eq_none_of_find? {spec : FieldSpec} {key : String}
    {entries : List (String × Json)} (h : spec.find? entries = none) (hkey : key ∈ spec.keys) :
    entries.lookup key = none := by
  simp only [find?, Option.or_eq_none_iff, Option.bind_eq_none_iff, Option.map_eq_none_iff] at h
  rcases mem_keys.1 hkey with rfl | hserial
  · exact h.2
  · exact h.1 key hserial

theorem Branches.shadowed_of_select? {branches : Branches} {found : Json} {tag : Tag}
    {fields : Fields} {entries : List (String × Json)} {path : List Step}
    (h : branches.select? found = some (tag, fields)) :
    branches.Shadowed tag.value entries path ↔ fields.Shadowed entries path := by
  refine select?_induction h (fun rest _ ↦ ?_) fun first others rest htag ih ↦ ?_
  · rw [Shadowed, if_pos rfl]
  · rw [Shadowed, if_neg (value_ne_of_not_isWritten h htag), ih]

theorem Fields.not_shadowed_here {entries : List (String × Json)} : ∀ fields : Fields,
    ¬ fields.Shadowed entries []
  | .nil | .cons _ _ _ => id

mutual

/-- What is not read has no issues. -/
theorem Shape.not_shadowed : ∀ {shape : Shape} {j : Json}, shape.isUnambiguous = true →
    ∀ issue ∈ shape.issues j, ¬ shape.Shadowed j issue.path
  | .text, _, _, _, _ | .flag, _, _, _, _ | .document, _, _, _, _ | .literal _, _, _, _, _ => id
  | .nullable inner, j, h, issue, hissue => by
    have hinner : inner.isUnambiguous = true := h
    rw [Shape.issues] at hissue
    split at hissue
    · cases hissue
    · exact Shape.not_shadowed hinner issue hissue
  | .list item, j, h, issue, hissue => by
    have hitem : item.isUnambiguous = true := h
    rcases j with _ | _ | _ | _ | items | _
    case array =>
      rw [Shape.issues, List.mem_flatMap] at hissue
      obtain ⟨⟨x, i⟩, hx, hissue⟩ := hissue
      obtain ⟨inner, hinner, rfl⟩ := List.mem_map.1 hissue
      rintro ⟨y, hy, hshadowed⟩
      obtain rfl : x = y :=
        Option.some.inj ((List.mk_mem_zipIdx_iff_getElem?.1 hx).symm.trans hy)
      exact Shape.not_shadowed hitem inner hinner hshadowed
    all_goals
      obtain rfl := List.mem_singleton.1 hissue
      exact id
  | .record title fields, j, h, issue, hissue => by
    have hfields : fields.isUnambiguous = true := h
    rcases j with _ | _ | _ | _ | _ | entries
    case object => exact Fields.not_shadowed hfields issue hissue
    all_goals
      obtain rfl := List.mem_singleton.1 hissue
      exact fields.not_shadowed_here
  | .variants key branches, j, h, issue, hissue => by
    have hbranches : branches.isUnambiguous key = true := h
    rcases j with _ | _ | _ | _ | _ | entries
    case object =>
      rw [Shape.issues] at hissue
      rcases hfound : entries.lookup key with _ | found
      · simp only [hfound] at hissue
        obtain rfl := List.mem_singleton.1 hissue
        exact id
      simp only [hfound] at hissue
      rcases hselect : branches.select? found with _ | ⟨tag, fields⟩
      · rw [Branches.issues_of_select?_eq_none hselect] at hissue
        obtain rfl := List.mem_singleton.1 hissue
        exact id
      · rw [Branches.issues_of_select? hselect] at hissue
        obtain ⟨inner, hinner, rfl⟩ := List.mem_map.1 hissue
        have hnot := Branches.not_shadowed hbranches hselect inner hinner
        exact hnot ∘ (Branches.shadowed_of_select? hselect).1
    all_goals
      obtain rfl := List.mem_singleton.1 hissue
      exact id

theorem Fields.not_shadowed : ∀ {fields : Fields} {entries : List (String × Json)},
    fields.isUnambiguous = true →
      ∀ issue ∈ fields.issues entries, ¬ fields.Shadowed entries issue.path
  | .nil, _, _, _, _ => id
  | .cons spec shape rest, entries, h, issue, hissue => by
    obtain ⟨hkeys, hshape, hrest⟩ := Fields.isUnambiguous_cons.1 h
    rw [Fields.issues, List.mem_append] at hissue
    rcases hissue with hissue | hissue
    · rcases hfind : spec.find? entries with _ | ⟨key, value⟩
      · simp only [hfind] at hissue
        split at hissue
        · cases hissue
        · obtain rfl := List.mem_singleton.1 hissue
          -- a field is missing only if there is an entry under none of its names
          have hnone : ∀ key ∈ spec.keys, entries.lookup key = none :=
            fun _ ↦ FieldSpec.lookup_eq_none_of_find? hfind
          have hwritten : spec.writtenName ∈ spec.keys := spec.writtenName_mem_keys
          rw [Issue.path_under, Fields.Shadowed, if_pos hwritten]
          rintro (⟨-, serialName, hserial, -, hgiven⟩ | ⟨value, hvalue, -⟩)
          · rw [hnone serialName (FieldSpec.mem_keys.2 (.inr hserial))] at hgiven
            cases hgiven
          · rw [hnone spec.writtenName hwritten] at hvalue
            cases hvalue
      · simp only [hfind] at hissue
        obtain ⟨inner, hinner, rfl⟩ := List.mem_map.1 hissue
        -- the issue stands inside the entry that was read, and that one is not shadowed
        rw [Issue.path_under, Fields.Shadowed, if_pos (FieldSpec.mem_keys_of_find? hfind)]
        rintro (⟨rfl, hshadowed⟩ | ⟨other, hother, hshadowed⟩)
        · exact FieldSpec.not_isShadowed_of_find? hfind hshadowed
        · obtain rfl : value = other :=
            Option.some.inj ((FieldSpec.find?_eq_some_iff.1 hfind).1.symm.trans hother)
          exact Shape.not_shadowed hshape inner hinner hshadowed
    · have hnot := Fields.not_shadowed hrest issue hissue
      obtain ⟨key, others, hpath, hkey⟩ := Fields.path_of_mem_issues hissue
      have hother : key ∉ spec.keys := fun hmem ↦ hkeys key hmem hkey
      rwa [hpath, Fields.Shadowed, if_neg hother, ← hpath]

theorem Branches.not_shadowed : ∀ {branches : Branches} {key : String} {found : Json}
    {tag : Tag} {fields : Fields} {entries : List (String × Json)},
    branches.isUnambiguous key = true → branches.select? found = some (tag, fields) →
      ∀ issue ∈ fields.issues entries, ¬ fields.Shadowed entries issue.path
  | .cons first _ rest, key, found, _, _, entries, h, hselect => by
    obtain ⟨-, hfields, hrest⟩ := Branches.isUnambiguous_cons.1 h
    rw [Branches.select?] at hselect
    split at hselect
    · cases hselect
      exact Fields.not_shadowed hfields
    · exact Branches.not_shadowed hrest hselect

end

end Schema

namespace RecordClass

/-- **Validation reads the fields and nothing else.** Two documents that give every field of a class
the same value come to the same outcome, up to the names of fields in the places of issues. So a
document under any mixture of names comes to the outcome of its serializer's form, and no issue is
ever reported at an entry that another one shadows. -/
theorem validate_declaredKeys (c : RecordClass) {j k : Json} (h : c.shape.Agree j k) :
    c.shape.respelled (c.validate j) = c.shape.respelled (c.validate k) ∧
    (∀ data, c.shape.Agree data (c.shape.respell data) ∧
      c.validate (c.shape.respell data) = c.shape.respelled (c.validate data)) ∧
    ∀ data, ∀ issue ∈ reported (c.validate data), ¬ c.shape.Shadowed data issue.path := by
  have hrespell (data : Json) :
      c.validate (c.shape.respell data) = c.shape.respelled (c.validate data) :=
    Shape.validate_respell c.isUnambiguous_shape c.title data
  refine ⟨?_, fun data ↦ ⟨Shape.agree_respell c.isUnambiguous_shape, hrespell data⟩, ?_⟩
  · rw [← hrespell, ← hrespell, h.respell_eq]
  · intro data issue hissue
    have hissues : issue ∈ c.shape.issues data := by rwa [validate, reported_validate] at hissue
    exact Shape.not_shadowed c.isUnambiguous_shape issue hissues

/-- A form that goes by its own names and the serializer's, with a number for the label of a field.
Another number stands where an appearance should, but is shadowed. -/
def mixedForm : Json :=
  .object [("id", .text "details"), ("note", .text "draft"), ("form_appearance", .int 7),
    ("appearance", .object
      [("form_fields", .array [.object [("label_id", .int 3), ("id", .text "comment")]]),
        ("set", .array [])])]

/-- The same form by other names, in another order. -/
def otherForm : Json :=
  .object [("form_appearance", .object
      [("set", .array []), ("field", .array
        [.object [("id", .text "comment"), ("label_id", .null), ("label-id", .int 3)]])]),
    ("id", .text "details")]

/-- Both forms are refused for the label alone, each by the names that it uses. -/
theorem validate_declaredKeys_forms :
    form.validate mixedForm = .error ⟨"Form", [⟨[.key "appearance", .key "form_fields", .index 0,
      .key "label_id"], .notText⟩]⟩ ∧
    form.validate otherForm = .error ⟨"Form", [⟨[.key "form_appearance", .key "field", .index 0,
      .key "label-id"], .notText⟩]⟩ ∧
    form.shape.respelled (form.validate mixedForm)
      = form.shape.respelled (form.validate otherForm) := by
  have hfield : Shapes.formField.Agree (.object [("label_id", .int 3), ("id", .text "comment")])
      (.object [("id", .text "comment"), ("label_id", .null), ("label-id", .int 3)]) :=
    .inr ⟨_, _, rfl, rfl, .some rfl, .some rfl, .none, .none, .none, .none, .none, trivial⟩
  have hagree : form.shape.Agree mixedForm otherForm :=
    .inr ⟨_, _, rfl, rfl, .some rfl, .none,
      .some (.inr ⟨_, _, rfl, rfl, .some (.inl rfl),
        .some (.inr ⟨_, _, rfl, rfl, .cons hfield .nil⟩), trivial⟩), trivial⟩
  exact ⟨rfl, rfl, (validate_declaredKeys form hagree).1⟩

end RecordClass

end WorkflowArtifacts
