import WorkflowArtifacts.Proofs.Schema.Elements
import WorkflowArtifacts.Proofs.Schema.RoundTrip

/-!
# Documents under the serializer's names

A field with a name for the serializer may be given under either name, and an object may hold any
number of entries besides its fields. `Shape.respell` takes all this freedom out of a document: each
field is moved to the name under which the serializer writes it, what no field is read from is
dropped, and the fields stand in the order of their record. Validation does not notice. It yields
the same document, and for the same reasons refuses it at the same places, which
`Shape.respellPath` calls by the serializer's names as well (`Shape.validate_respell`).

Both functions follow the shape as validation does. They agree with it where a record tells its
fields apart and an object of a union keeps its tag (`Shape.isUnambiguous`), as in all classes.
-/

namespace WorkflowArtifacts

open Schema

namespace Schema

variable {spec : FieldSpec} {key : String} {value : Json} {entries : List (String × Json)}

/-! ## What a field is given -/

/-- The value that an object gives to a field: the one under the serializer's name if there is one,
otherwise the one under the field's own name. -/
def FieldSpec.given (spec : FieldSpec) (entries : List (String × Json)) : Option Json :=
  (spec.serialName.bind (entries.lookup ·)).or (entries.lookup spec.name)

theorem FieldSpec.given_eq (spec : FieldSpec) (entries : List (String × Json)) :
    spec.given entries = (spec.find? entries).map Prod.snd := by
  rw [given, find?, Option.map_or, Option.map_bind]
  simp [Function.comp_def]

/-- An entry under a field's own name is read only if there is none under the serializer's name. -/
theorem FieldSpec.find?_eq_some_iff : spec.find? entries = some (key, value) ↔
    entries.lookup key = some value ∧ (spec.serialName = some key ∨
      key = spec.name ∧ ∀ serialName, spec.serialName = some serialName →
        entries.lookup serialName = none) := by
  simp only [find?, Option.or_eq_some_iff, Option.bind_eq_some_iff, Option.bind_eq_none_iff,
    Option.map_eq_some_iff, Option.map_eq_none_iff, Prod.mk.injEq]
  constructor
  · rintro (⟨_, hserial, _, h, rfl, rfl⟩ | ⟨hnone, _, h, rfl, rfl⟩)
    · exact ⟨h, .inl hserial⟩
    · exact ⟨h, .inr ⟨rfl, hnone⟩⟩
  · rintro ⟨h, hserial | ⟨rfl, hnone⟩⟩
    · exact .inl ⟨key, hserial, value, h, rfl, rfl⟩
    · exact .inr ⟨hnone, value, h, rfl, rfl⟩

theorem FieldSpec.mem_keys_of_find? (h : spec.find? entries = some (key, value)) :
    key ∈ spec.keys := by
  rw [mem_keys]
  rcases (find?_eq_some_iff.1 h).2 with hserial | ⟨hname, -⟩
  · exact .inr hserial
  · exact .inl hname

theorem FieldSpec.writtenName_mem_keys (spec : FieldSpec) : spec.writtenName ∈ spec.keys :=
  Style.nameOf_mem_keys ⟨true, false⟩ spec

/-! ## Telling fields apart -/

mutual

/-- Whether the fields of each record answer to different names, and each class of a union begins
with the tag that selects it. -/
def Shape.isUnambiguous : Shape → Bool
  | .text | .flag | .document | .literal _ => true
  | .nullable inner => inner.isUnambiguous
  | .list item => item.isUnambiguous
  | .record _ fields => fields.isUnambiguous
  | .variants key branches => branches.isUnambiguous key

/-- Whether the fields of a record answer to different names, also those of what they hold. -/
def Fields.isUnambiguous : Fields → Bool
  | .nil => true
  | .cons spec shape rest =>
    spec.keys.all (!rest.keys.contains ·) && shape.isUnambiguous && rest.isUnambiguous

/-- Whether the classes of a union begin with the tags that select them and tell their fields
apart. -/
def Branches.isUnambiguous (key : String) : Branches → Bool
  | .nil => true
  | .cons tag fields rest =>
    fields.beginsWith key tag && fields.isUnambiguous && rest.isUnambiguous key

end

theorem Fields.isUnambiguous_cons {shape : Shape} {rest : Fields} :
    (Fields.cons spec shape rest).isUnambiguous = true ↔
      (∀ key ∈ spec.keys, key ∉ rest.keys) ∧ shape.isUnambiguous = true ∧
        rest.isUnambiguous = true := by
  simp [isUnambiguous, and_assoc]

theorem Branches.isUnambiguous_cons {tag : Tag} {fields : Fields} {rest : Branches} :
    (Branches.cons tag fields rest).isUnambiguous key = true ↔
      fields.beginsWith key tag = true ∧ fields.isUnambiguous = true ∧
        rest.isUnambiguous key = true := by
  simp [isUnambiguous, and_assoc]

/-! ## The form of the serializer -/

mutual

/-- The same document with every field under the name that the serializer writes, and nothing
besides. Of an object of no known class there remains what it says about its kind, and anything else
that is not of the shape stays as it is. -/
def Shape.respell : Shape → Json → Json
  | .nullable inner, j => inner.respell j
  | .list item, j =>
    match j with
    | .array items => .array (items.map item.respell)
    | _ => j
  | .record _ fields, j =>
    match j with
    | .object entries => .object (fields.respell entries)
    | _ => j
  | .variants key branches, j =>
    match j with
    | .object entries =>
      match entries.lookup key with
      | some found => .object (branches.respell key found entries)
      | none => .object []
    | _ => j
  | .text, j | .flag, j | .document, j | .literal _, j => j

/-- The entries of a record under the names that the serializer writes. -/
def Fields.respell : Fields → List (String × Json) → List (String × Json)
  | .nil, _ => []
  | .cons spec shape rest, entries =>
    match spec.given entries with
    | some value => (spec.writtenName, shape.respell value) :: rest.respell entries
    | none => rest.respell entries

/-- The entries of an object that says under `key` that it is `found`, under the names that the
serializer writes. -/
def Branches.respell (key : String) (found : Json) :
    Branches → List (String × Json) → List (String × Json)
  | .nil, _ => [(key, found)]
  | .cons tag fields rest, entries =>
    if tag.isWritten found then fields.respell entries else rest.respell key found entries

end

theorem Shape.respell_null : ∀ {shape : Shape}, shape.respell .null = .null
  | .nullable inner => show inner.respell .null = .null from respell_null
  | .text | .flag | .document | .literal _ | .list _ | .record _ _ | .variants _ _ => rfl

/-- Neither form is absent where the other one is not. -/
theorem Shape.isNull_respell : ∀ {shape : Shape} {j : Json},
    (shape.respell j).isNull = j.isNull
  | .text, _ | .flag, _ | .document, _ | .literal _, _ => rfl
  | .nullable inner, j => show (inner.respell j).isNull = j.isNull from isNull_respell
  | .list _, j | .record _ _, j => by rcases j <;> rfl
  | .variants key branches, j => by
    rcases j with _ | _ | _ | _ | _ | entries
    case object =>
      rw [respell]
      split <;> rfl
    all_goals rfl

theorem Fields.respell_of_find? {shape : Shape} {rest : Fields}
    (h : spec.find? entries = some (key, value)) :
    (Fields.cons spec shape rest).respell entries
      = (spec.writtenName, shape.respell value) :: rest.respell entries := by
  rw [respell, FieldSpec.given_eq, h]
  rfl

theorem Fields.respell_of_find?_eq_none {shape : Shape} {rest : Fields}
    (h : spec.find? entries = none) :
    (Fields.cons spec shape rest).respell entries = rest.respell entries := by
  rw [respell, FieldSpec.given_eq, h]
  rfl

theorem Fields.lookup_respell_of_notMem {fields : Fields} (h : key ∉ fields.keys) :
    (fields.respell entries).lookup key = none := by
  match fields with
  | .nil => rfl
  | .cons spec shape rest =>
    rw [keys, List.mem_append, not_or] at h
    have hothers : (rest.respell entries).lookup key = none := lookup_respell_of_notMem h.2
    rw [respell]
    split
    · have hne : key ≠ spec.writtenName := fun heq ↦ h.1 (heq ▸ spec.writtenName_mem_keys)
      rw [lookup_cons_of_ne hne, hothers]
    · exact hothers

/-- The serializer's form of an object has its tag. -/
theorem Fields.lookup_respell_of_beginsWith {fields : Fields} {tag : Tag} {found : Json}
    (hbegins : fields.beginsWith key tag = true) (h : entries.lookup key = some found) :
    (fields.respell entries).lookup key = some found := by
  obtain ⟨default, rest, rfl⟩ := exists_of_beginsWith hbegins
  have hfind : (FieldSpec.mk key none default).find? entries = some (key, found) := by
    rw [FieldSpec.find?_of_noSerialName, h, Option.map_some]
  rw [respell_of_find? hfind]
  exact List.lookup_cons_self

/-- In the serializer's form a field is found under the name that the serializer writes. -/
theorem Fields.find?_respell {shape : Shape} {rest : Fields}
    (h : ∀ key ∈ spec.keys, key ∉ rest.keys) :
    spec.find? ((Fields.cons spec shape rest).respell entries)
      = (spec.find? entries).map fun entry ↦ (spec.writtenName, shape.respell entry.2) := by
  have hothers : ∀ key ∈ spec.keys, (rest.respell entries).lookup key = none :=
    fun key hkey ↦ lookup_respell_of_notMem (h key hkey)
  rcases hfind : spec.find? entries with _ | ⟨key, value⟩
  · rw [respell_of_find?_eq_none hfind, FieldSpec.find?_eq_none hothers, Option.map_none]
  · have hname : (⟨true, false⟩ : Style).nameOf spec = spec.writtenName := rfl
    rw [respell_of_find? hfind, ← hname, FieldSpec.find?_nameOf hothers, Option.map_some]

/-! ## Places -/

/-- The issue at another place. -/
def Issue.mapPath (f : List Step → List Step) (issue : Issue) : Issue :=
  { issue with path := f issue.path }

@[simp] theorem Issue.mapPath_here {f : List Step → List Step} {reason : Reason}
    (h : f [] = []) : (here reason).mapPath f = here reason := by
  rw [mapPath, path_here, h]
  rfl

mutual

/-- A place in a document with every field by the name that the serializer writes. -/
def Shape.respellPath : Shape → List Step → List Step
  | .nullable inner, path => inner.respellPath path
  | .list item, path =>
    match path with
    | step :: others => step :: item.respellPath others
    | [] => []
  | .record _ fields, path => fields.respellPath path
  | .variants _ branches, path =>
    match path with
    | .key tag :: others => .key tag :: branches.respellPath tag others
    | _ => path
  | .text, path | .flag, path | .document, path | .literal _, path => path

/-- A place in a record with every field by the name that the serializer writes. -/
def Fields.respellPath : Fields → List Step → List Step
  | .nil, path => path
  | .cons spec shape rest, path =>
    match path with
    | .key key :: others =>
      if key ∈ spec.keys then .key spec.writtenName :: shape.respellPath others
      else rest.respellPath path
    | _ => path

/-- A place in an object with a tag, with every field by the name that the serializer writes. -/
def Branches.respellPath (tag : String) : Branches → List Step → List Step
  | .nil, path => path
  | .cons first fields rest, path =>
    if first.value = tag then fields.respellPath path else rest.respellPath tag path

end

theorem Fields.respellPath_nil : ∀ fields : Fields, fields.respellPath [] = []
  | .nil | .cons _ _ _ => rfl

theorem Shape.respellPath_nil : ∀ shape : Shape, shape.respellPath [] = []
  | .nullable inner => inner.respellPath_nil
  | .record _ fields => fields.respellPath_nil
  | .list _ | .variants _ _ | .text | .flag | .document | .literal _ => rfl

/-- The place of an issue with a record starts with a name of one of its fields. -/
theorem Fields.path_of_mem_issues : ∀ {fields : Fields} {issue : Issue},
    issue ∈ fields.issues entries → ∃ key others, issue.path = .key key :: others ∧
      key ∈ fields.keys
  | .cons spec shape rest, issue, h => by
    rw [issues, List.mem_append] at h
    rw [keys]
    rcases h with h | h
    · rcases hfind : spec.find? entries with _ | ⟨key, value⟩
      · simp only [hfind] at h
        split at h
        · cases h
        · obtain rfl := List.mem_singleton.1 h
          exact ⟨_, _, rfl, List.mem_append_left _ spec.writtenName_mem_keys⟩
      · simp only [hfind, List.mem_map] at h
        obtain ⟨inner, -, rfl⟩ := h
        exact ⟨_, _, rfl, List.mem_append_left _ (FieldSpec.mem_keys_of_find? hfind)⟩
    · obtain ⟨key, others, hpath, hkey⟩ := path_of_mem_issues h
      exact ⟨key, others, hpath, List.mem_append_right _ hkey⟩

theorem Fields.map_respellPath_issues {shape : Shape} {rest : Fields}
    (h : ∀ key ∈ spec.keys, key ∉ rest.keys) :
    (rest.issues entries).map (·.mapPath (Fields.cons spec shape rest).respellPath)
      = (rest.issues entries).map (·.mapPath rest.respellPath) := by
  refine List.map_congr_left fun issue hissue ↦ ?_
  obtain ⟨key, others, hpath, hkey⟩ := path_of_mem_issues hissue
  have hnot : key ∉ spec.keys := fun hmem ↦ h key hmem hkey
  rw [Issue.mapPath, Issue.mapPath, hpath, respellPath, if_neg hnot]

theorem Issue.mapPath_under_field {shape : Shape} {rest : Fields} {issue : Issue}
    (h : key ∈ spec.keys) :
    (issue.under (.key key)).mapPath (Fields.cons spec shape rest).respellPath
      = (issue.mapPath shape.respellPath).under (.key spec.writtenName) := by
  rw [mapPath, path_under, Fields.respellPath, if_pos h]
  rfl

/-! ## The class that is selected -/

section

variable {tag : Tag} {fields : Fields} {branches : Branches} {found : Json}

theorem Branches.respell_of_select? (h : branches.select? found = some (tag, fields)) :
    branches.respell key found entries = fields.respell entries := by
  refine select?_induction h (fun rest htag ↦ ?_) fun first others rest htag ih ↦ ?_
  · rw [respell, if_pos htag]
  · rw [respell, if_neg htag, ih]

theorem Branches.respell_of_select?_eq_none : ∀ {branches : Branches},
    branches.select? found = none → branches.respell key found entries = [(key, found)]
  | .nil, _ => rfl
  | .cons first _ rest, h => by
    rw [select?] at h
    rw [respell]
    split at h
    · cases h
    · next htag => rw [if_neg htag, respell_of_select?_eq_none h]

theorem Branches.beginsWith_of_select? (h : branches.select? found = some (tag, fields))
    (hunambiguous : branches.isUnambiguous key = true) : fields.beginsWith key tag = true := by
  revert hunambiguous
  refine select?_induction h (fun rest _ ↦ ?_) fun first others rest _ ih ↦ ?_
  · exact fun hunambiguous ↦ (isUnambiguous_cons.1 hunambiguous).1
  · exact fun hunambiguous ↦ ih (isUnambiguous_cons.1 hunambiguous).2.2

/-- The classes in front of a selected one have other tags. -/
theorem Branches.value_ne_of_not_isWritten {first : Tag}
    (h : branches.select? found = some (tag, fields)) (hfirst : ¬ first.isWritten found = true) :
    first.value ≠ tag.value := by
  rw [found_of_select? h, Tag.isWritten_iff, Json.text.injEq] at hfirst
  exact Ne.symm hfirst

theorem Branches.respellPath_of_select? {path : List Step}
    (h : branches.select? found = some (tag, fields)) :
    branches.respellPath tag.value path = fields.respellPath path := by
  refine select?_induction h (fun rest _ ↦ ?_) fun first others rest htag ih ↦ ?_
  · rw [respellPath, if_pos rfl]
  · rw [respellPath, if_neg (value_ne_of_not_isWritten h htag), ih]

end

/-! ## Validation does not notice -/

mutual

/-- The serializer's form of a document has the issues of the document, by the serializer's
names. -/
theorem Shape.issues_respell : ∀ {shape : Shape} {j : Json}, shape.isUnambiguous = true →
    shape.issues (shape.respell j) = (shape.issues j).map (·.mapPath shape.respellPath)
  | .text, j, _ | .flag, j, _ | .document, j, _ | .literal _, j, _ => (List.map_id _).symm
  | .nullable inner, j, h => by
    have hinner : inner.isUnambiguous = true := h
    have hnull : (inner.respell j).isNull = j.isNull := Shape.isNull_respell
    simp only [Shape.respell, Shape.issues, hnull]
    split
    · rfl
    · exact Shape.issues_respell hinner
  | .list item, j, h => by
    have hitem : item.isUnambiguous = true := h
    rcases j with _ | _ | _ | _ | items | _
    case array =>
      simp only [Shape.respell, Shape.issues, List.zipIdx_map, List.flatMap_map, List.map_flatMap,
        List.map_map, Prod.map_fst, Prod.map_snd, id_eq, Shape.issues_respell hitem]
      rfl
    all_goals rfl
  | .record title fields, j, h => by
    have hfields : fields.isUnambiguous = true := h
    rcases j with _ | _ | _ | _ | _ | entries
    case object => exact Fields.issues_respell hfields
    all_goals simp [Shape.respell, Shape.issues, Shape.respellPath_nil]
  | .variants key branches, j, h => by
    have hbranches : branches.isUnambiguous key = true := h
    rcases j with _ | _ | _ | _ | _ | entries
    case object =>
      rcases hfound : entries.lookup key with _ | found
      · simp [Shape.respell, Shape.issues, hfound, Shape.respellPath_nil]
      rcases hselect : branches.select? found with _ | ⟨tag, fields⟩
      · simp [Shape.respell, Shape.issues, hfound, Branches.respell_of_select?_eq_none hselect,
          Branches.issues_of_select?_eq_none hselect, Shape.respellPath_nil]
      · have hkeeps := Fields.lookup_respell_of_beginsWith
          (Branches.beginsWith_of_select? hselect hbranches) hfound
        have hplace (issue : Issue) :
            (issue.under (.key tag.value)).mapPath (Shape.variants key branches).respellPath
              = (issue.mapPath fields.respellPath).under (.key tag.value) := by
          rw [Issue.mapPath, Issue.path_under, Shape.respellPath,
            Branches.respellPath_of_select? hselect]
          rfl
        -- the tag is still there, so both forms are handed over to the same class
        simp only [Shape.respell, Shape.issues, hfound, Branches.respell_of_select? hselect,
          hkeeps, Branches.issues_of_select? hselect, Branches.issues_respell hbranches hselect,
          List.map_map, Function.comp_def, hplace]
    all_goals rfl

theorem Fields.issues_respell : ∀ {fields : Fields} {entries : List (String × Json)},
    fields.isUnambiguous = true →
      fields.issues (fields.respell entries)
        = (fields.issues entries).map (·.mapPath fields.respellPath)
  | .nil, _, _ => rfl
  | .cons spec shape rest, entries, h => by
    obtain ⟨hkeys, hshape, hrest⟩ := Fields.isUnambiguous_cons.1 h
    -- no later field is read from the entry that is written for this one
    have hwritten : spec.writtenName ∉ rest.keys := hkeys _ spec.writtenName_mem_keys
    rw [Fields.issues, Fields.issues, Fields.find?_respell hkeys, List.map_append,
      Fields.map_respellPath_issues hkeys, ← Fields.issues_respell hrest]
    rcases hfind : spec.find? entries with _ | ⟨key, value⟩
    · rw [Fields.respell_of_find?_eq_none hfind]
      congr 1
      simp only [Option.map_none]
      split
      · rfl
      · rw [List.map_singleton, Issue.mapPath_under_field spec.writtenName_mem_keys,
          Issue.mapPath_here shape.respellPath_nil]
    · have hkey := FieldSpec.mem_keys_of_find? hfind
      rw [Fields.respell_of_find? hfind, Fields.issues_cons_of_notMem hwritten]
      simp only [Option.map_some, Shape.issues_respell hshape, List.map_map, Function.comp_def,
        Issue.mapPath_under_field hkey]

theorem Branches.issues_respell : ∀ {branches : Branches} {key : String} {found : Json}
    {tag : Tag} {fields : Fields} {entries : List (String × Json)},
    branches.isUnambiguous key = true → branches.select? found = some (tag, fields) →
      fields.issues (fields.respell entries)
        = (fields.issues entries).map (·.mapPath fields.respellPath)
  | .cons first _ rest, key, found, _, _, entries, h, hselect => by
    obtain ⟨-, hfields, hrest⟩ := Branches.isUnambiguous_cons.1 h
    rw [Branches.select?] at hselect
    split at hselect
    · cases hselect
      exact Fields.issues_respell hfields
    · exact Branches.issues_respell hrest hselect

end

mutual

/-- The serializer's form of a document without issues has the normal form of the document. -/
theorem Shape.normal_respell : ∀ {shape : Shape} {j : Json}, shape.isUnambiguous = true →
    shape.issues j = [] → shape.normal (shape.respell j) = shape.normal j
  | .text, _, _, _ | .flag, _, _, _ | .document, _, _, _ | .literal _, _, _, _ => rfl
  | .nullable inner, j, h, hj => by
    have hinner : inner.isUnambiguous = true := h
    by_cases hnull : j = .null
    · rw [hnull, Shape.respell, Shape.respell_null]
    · have hpresent : ¬ j.isNull = true := hnull ∘ (Json.isNull_iff j).1
      have hwritten : (inner.respell j).isNull = j.isNull := Shape.isNull_respell
      simp only [Shape.respell, Shape.issues, Shape.normal, hwritten, if_neg hpresent] at hj ⊢
      exact Shape.normal_respell hinner hj
  | .list item, j, h, hj => by
    have hitem : item.isUnambiguous = true := h
    rcases j with _ | _ | _ | _ | items | _
    case array =>
      have hitems := Shape.list_issues_eq_nil_iff.1 hj
      simp only [Shape.respell, Shape.normal, List.map_map]
      congr 1
      exact List.map_congr_left fun x hx ↦ Shape.normal_respell hitem (hitems x hx)
    all_goals rfl
  | .record title fields, j, h, hj => by
    have hfields : fields.isUnambiguous = true := h
    rcases j with _ | _ | _ | _ | _ | entries
    case object => exact congrArg Json.object (Fields.normal_respell hfields hj)
    all_goals rfl
  | .variants key branches, j, h, hj => by
    have hbranches : branches.isUnambiguous key = true := h
    rcases j with _ | _ | _ | _ | _ | entries
    case object =>
      rcases hfound : entries.lookup key with _ | found
      · simp [Shape.issues, hfound] at hj
      rcases hselect : branches.select? found with _ | ⟨tag, fields⟩
      · simp [Shape.issues, hfound, Branches.issues_of_select?_eq_none hselect] at hj
      · simp only [Shape.issues, hfound, Branches.issues_of_select? hselect,
          List.map_eq_nil_iff] at hj
        have hkeeps := Fields.lookup_respell_of_beginsWith
          (Branches.beginsWith_of_select? hselect hbranches) hfound
        simp only [Shape.respell, Shape.normal, Json.get_object, hfound, Option.getD_some,
          Branches.respell_of_select? hselect, hkeeps, Branches.normal_of_select? hselect,
          Branches.normal_respell hbranches hselect hj]
    all_goals rfl

theorem Fields.normal_respell : ∀ {fields : Fields} {entries : List (String × Json)},
    fields.isUnambiguous = true → fields.issues entries = [] →
      fields.normal (fields.respell entries) = fields.normal entries
  | .nil, _, _, _ => rfl
  | .cons spec shape rest, entries, h, hj => by
    obtain ⟨hkeys, hshape, hrest⟩ := Fields.isUnambiguous_cons.1 h
    obtain ⟨hgiven, -, hothers⟩ := Fields.issues_cons_eq_nil_iff.1 hj
    have hwritten : spec.writtenName ∉ rest.keys := hkeys _ spec.writtenName_mem_keys
    rw [Fields.normal, Fields.normal, Fields.find?_respell hkeys]
    rcases hfind : spec.find? entries with _ | ⟨key, value⟩
    · rw [Fields.respell_of_find?_eq_none hfind, Fields.normal_respell hrest hothers]
      rfl
    · rw [Fields.respell_of_find? hfind, Fields.normal_cons_of_notMem hwritten,
        Fields.normal_respell hrest hothers]
      simp only [Option.map_some, Shape.normal_respell hshape (hgiven _ hfind)]

theorem Branches.normal_respell : ∀ {branches : Branches} {key : String} {found : Json}
    {tag : Tag} {fields : Fields} {entries : List (String × Json)},
    branches.isUnambiguous key = true → branches.select? found = some (tag, fields) →
      fields.issues entries = [] → fields.normal (fields.respell entries) = fields.normal entries
  | .cons first _ rest, key, found, _, _, entries, h, hselect, hj => by
    obtain ⟨-, hfields, hrest⟩ := Branches.isUnambiguous_cons.1 h
    rw [Branches.select?] at hselect
    split at hselect
    · cases hselect
      exact Fields.normal_respell hfields hj
    · exact Branches.normal_respell hrest hselect hj

end

/-- An outcome of validation with every field by the name that the serializer writes. Accepted
documents go by the fields' own names and stay as they are. -/
def Shape.respelled (shape : Shape) : Except Failure Json → Except Failure Json :=
  Except.mapError fun failure ↦
    ⟨failure.title, failure.issues.map (·.mapPath shape.respellPath)⟩

/-- The serializer's form of a document has the same outcome, by the serializer's names. -/
theorem Shape.validate_respell {shape : Shape} (h : shape.isUnambiguous = true) (title : String)
    (j : Json) :
    shape.validate title (shape.respell j) = shape.respelled (shape.validate title j) := by
  rw [validate_eq_mapError (issues_respell h) (normal_respell h) title, respelled]
  rcases houtcome : shape.validate title j with failure | document
  · rw [(validate_eq_error_iff.1 houtcome).2]
    rfl
  · rfl

end Schema

theorem RecordClass.isUnambiguous_shape (c : RecordClass) : c.shape.isUnambiguous = true :=
  have h : ∀ c ∈ RecordClass.all, c.shape.isUnambiguous = true := by decide +kernel
  h c c.mem_all

end WorkflowArtifacts
