import WorkflowArtifacts.Proofs.Schema.NormalForm
import WorkflowArtifacts.Schema.Examination

/-!
# Reading what was written

A document in normal form is written in one of four styles: under either set of names, with or
without the fields that are absent. Whatever the style, what is written is accepted again and its
normal form is the document itself, apart from infinite numbers where the shape leaves the contents
open (`Shape.read_render`). It also keeps to the style at every depth (`Shape.isInStyle_render`).

Both are inductions over the shape. Their one invariant is on records: the entries written for the
fields after a given one lie under names that the given one does not answer to, so that a field
which is omitted stays omitted and one which is written is read from its own entry.
-/

namespace WorkflowArtifacts

namespace Schema

variable {style : Style} {key : String} {value : Json} {entries : List (String × Json)}

/-! ## Entries that no field asks for -/

theorem lookup_cons_of_ne {key' : String} (h : key' ≠ key) :
    ((key, value) :: entries).lookup key' = entries.lookup key' := by
  rw [List.lookup_cons, beq_false_of_ne h]

theorem FieldSpec.find?_cons_of_notMem {spec : FieldSpec} (h : key ∉ spec.keys) :
    spec.find? ((key, value) :: entries) = spec.find? entries := by
  rw [mem_keys, not_or] at h
  obtain ⟨hname, hserial⟩ := h
  simp only [find?, lookup_cons_of_ne (Ne.symm hname)]
  cases hs : spec.serialName with
  | none => rfl
  | some serialName =>
    have hne : serialName ≠ key := fun heq ↦ hserial (heq ▸ hs)
    simp only [Option.bind_some, lookup_cons_of_ne hne]

theorem FieldSpec.find?_eq_none {spec : FieldSpec}
    (h : ∀ key ∈ spec.keys, entries.lookup key = none) : spec.find? entries = none := by
  simp only [find?, h spec.name (mem_keys.2 (.inl rfl))]
  cases hs : spec.serialName with
  | none => rfl
  | some serialName => simp [h serialName (mem_keys.2 (.inr hs))]

theorem Fields.issues_cons_of_notMem {fields : Fields} (h : key ∉ fields.keys) :
    fields.issues ((key, value) :: entries) = fields.issues entries := by
  match fields with
  | .nil => rfl
  | .cons spec shape rest =>
    rw [keys, List.mem_append, not_or] at h
    rw [issues, issues, FieldSpec.find?_cons_of_notMem h.1, issues_cons_of_notMem h.2]

theorem Fields.normal_cons_of_notMem {fields : Fields} (h : key ∉ fields.keys) :
    fields.normal ((key, value) :: entries) = fields.normal entries := by
  match fields with
  | .nil => rfl
  | .cons spec shape rest =>
    rw [keys, List.mem_append, not_or] at h
    rw [normal, normal, FieldSpec.find?_cons_of_notMem h.1, normal_cons_of_notMem h.2]

theorem Fields.render_cons_of_notMem {fields : Fields} (h : key ∉ fields.keys) :
    fields.render style ((key, value) :: entries) = fields.render style entries := by
  match fields with
  | .nil => rfl
  | .cons spec shape rest =>
    rw [keys, List.mem_append, not_or] at h
    have hne : spec.name ≠ key := fun heq ↦ h.1 (FieldSpec.mem_keys.2 (.inl heq.symm))
    simp only [render, lookup_cons_of_ne hne, render_cons_of_notMem h.2]

/-! ## Names in a style -/

theorem Style.nameOf_mem_keys (style : Style) (spec : FieldSpec) :
    style.nameOf spec ∈ spec.keys := by
  rw [FieldSpec.mem_keys, nameOf, FieldSpec.writtenName]
  split
  · cases spec.serialName <;> simp
  · exact .inl rfl

/-- Where no other entry answers for a field, the one written for it does. -/
theorem FieldSpec.find?_nameOf {spec : FieldSpec}
    (h : ∀ key ∈ spec.keys, entries.lookup key = none) :
    spec.find? ((style.nameOf spec, value) :: entries) = some (style.nameOf spec, value) := by
  obtain ⟨name, serialName, default⟩ := spec
  obtain ⟨serialNames, omitAbsent⟩ := style
  cases serialName with
  | none => simp [find?, Style.nameOf, writtenName]
  | some serialName =>
    cases serialNames with
    | true => simp [find?, Style.nameOf, writtenName]
    | false =>
      by_cases hsame : serialName = name
      · simp [find?, Style.nameOf, hsame]
      · have hserial := h serialName (mem_keys.2 (.inr rfl))
        simp [find?, Style.nameOf, lookup_cons_of_ne hsame, hserial]

/-- A record is written under the names of its fields only. -/
theorem Fields.lookup_render_of_notMem {fields : Fields} (h : key ∉ fields.keys) :
    (fields.render style entries).lookup key = none := by
  match fields with
  | .nil => rfl
  | .cons spec shape rest =>
    rw [keys, List.mem_append, not_or] at h
    have hothers := lookup_render_of_notMem h.2
    simp only [render]
    split
    · exact hothers
    · have hne : key ≠ style.nameOf spec := fun heq ↦ h.1 (heq ▸ style.nameOf_mem_keys spec)
      rw [lookup_cons_of_ne hne, hothers]

/-- A record that begins with its tag is written with the tag under the same key. -/
theorem Fields.lookup_render_of_beginsWith {fields : Fields} {tag : Tag}
    (hbegins : fields.beginsWith key tag = true) (h : fields.isNormal entries = true) :
    (fields.render style entries).lookup key = some (.text tag.value) := by
  obtain ⟨default, rest, rfl⟩ := exists_of_beginsWith hbegins
  match entries, h with
  | (name, value) :: entries, h =>
    simp only [isNormal, Shape.isNormal, Bool.and_eq_true, beq_iff_eq] at h
    obtain ⟨⟨rfl, hvalue⟩, -⟩ := h
    obtain rfl := Tag.isWritten_iff.1 hvalue
    simp [render, Shape.render, Style.nameOf, FieldSpec.writtenName]

/-! ## Reading undoes writing -/

/-- A field that may hold the absent value holds it when left out. -/
theorem FieldSpec.default_eq_null {spec : FieldSpec} {shape : Shape}
    (hstands : spec.standsIn shape = true) (h : shape.isNormal .null = true) :
    spec.default = some .null := by
  unfold standsIn at hstands
  split at hstands
  · next value hdefault =>
    simp only [h, Bool.not_true, Bool.or_false, Bool.and_eq_true, Json.isNull_iff] at hstands
    rw [hdefault, hstands.2]
  · simp [h] at hstands

/-- Writing neither makes nor loses the absent value. -/
theorem Shape.isNull_render : ∀ {shape : Shape} {j : Json}, shape.isNormal j = true →
    (shape.render style j).isNull = j.isNull
  | .text, _, _ | .flag, _, _ | .literal _, _, _ => rfl
  | .document, j, h => by
    obtain ⟨entries, rfl⟩ := isNormal_document_iff.1 h
    rfl
  | .nullable inner, j, h => by
    rw [render]
    split
    · rfl
    · next hnull =>
      have hj := (isNormal_nullable_iff.1 h).resolve_left (hnull ∘ (Json.isNull_iff j).2)
      exact isNull_render hj
  | .list _, j, _ | .record _ _, j, _ | .variants _ _, j, _ => by cases j <;> rfl

mutual

/-- Reading what was written of a document in normal form gives the document back, without the
numbers that are not finite. -/
theorem Shape.read_render : ∀ {shape : Shape} {j : Json}, shape.isCoherent = true →
    shape.isNormal j = true → shape.issues (shape.render style j) = [] ∧
      shape.normal (shape.render style j) = j.finite
  | .text, j, _, h => by
    obtain ⟨s, rfl⟩ := Shape.isNormal_text_iff.1 h
    exact ⟨rfl, rfl⟩
  | .flag, j, _, h => by
    obtain ⟨b, rfl⟩ := Shape.isNormal_flag_iff.1 h
    exact ⟨rfl, rfl⟩
  | .document, j, _, h => by
    obtain ⟨entries, rfl⟩ := Shape.isNormal_document_iff.1 h
    exact ⟨rfl, rfl⟩
  | .literal tag, j, _, h => by
    obtain rfl := Tag.isWritten_iff.1 h
    exact ⟨if_pos h, rfl⟩
  | .nullable inner, j, hc, h => by
    have hinner : inner.isCoherent = true := hc
    by_cases hnull : j = .null
    · rw [hnull]
      exact ⟨rfl, rfl⟩
    · have hj := (Shape.isNormal_nullable_iff.1 h).resolve_left hnull
      have hpresent : ¬ j.isNull = true := fun hj ↦ hnull ((Json.isNull_iff j).1 hj)
      -- what is written is present too, so the inner shape is asked again
      have hwritten : (inner.render style j).isNull = j.isNull := Shape.isNull_render hj
      simp only [Shape.render, Shape.issues, Shape.normal, if_neg hpresent, hwritten]
      exact Shape.read_render hinner hj
  | .list item, j, hc, h => by
    have hitem : item.isCoherent = true := hc
    obtain ⟨items, rfl, hitems⟩ := Shape.isNormal_list_iff.1 h
    refine ⟨Shape.list_issues_eq_nil_iff.2 ?_, ?_⟩
    · intro x hx
      obtain ⟨y, hy, rfl⟩ := List.mem_map.1 hx
      exact (Shape.read_render hitem (hitems y hy)).1
    · simp only [Shape.render, Shape.normal, Json.finite, Json.finiteItems_eq_map, List.map_map]
      congr 1
      exact List.map_congr_left fun x hx ↦ (Shape.read_render hitem (hitems x hx)).2
  | .record _ fields, j, hc, h => by
    have hfields : fields.isCoherent = true := hc
    obtain ⟨entries, rfl, hentries⟩ := Shape.isNormal_record_iff.1 h
    obtain ⟨hissues, hnormal⟩ := Fields.read_render hfields hentries
    exact ⟨hissues, congrArg Json.object hnormal⟩
  | .variants key branches, j, hc, h => by
    have hbranches : branches.isCoherent key = true := hc
    obtain ⟨entries, rfl, hentries⟩ := Shape.isNormal_variants_iff.1 h
    obtain ⟨hfound, hissues, hnormal⟩ := Branches.read_render branches.tags hbranches hentries
    refine ⟨?_, ?_⟩
    · simp only [Shape.render, Shape.issues, hfound]
      exact hissues
    · rw [Shape.render, Shape.normal, Json.get_object, hfound]
      exact congrArg Json.object hnormal

/-- Reading the entries written of a record in normal form gives the entries back. -/
theorem Fields.read_render : ∀ {fields : Fields} {entries : List (String × Json)},
    fields.isCoherent = true → fields.isNormal entries = true →
      fields.issues (fields.render style entries) = [] ∧
        fields.normal (fields.render style entries) = Json.finiteEntries entries
  | .nil, [], _, _ => ⟨rfl, rfl⟩
  | .cons spec shape rest, (name, value) :: entries, hc, h => by
    obtain ⟨hstands, hkeys, hshape, hrest⟩ := Fields.isCoherent_cons.1 hc
    simp only [Fields.isNormal, Bool.and_eq_true, beq_iff_eq] at h
    obtain ⟨⟨rfl, hvalue⟩, hentries⟩ := h
    have hname : spec.name ∉ rest.keys := hkeys _ (FieldSpec.mem_keys.2 (.inl rfl))
    -- no field after this one is written under one of its names, so none is read in its place
    have hothers : ∀ key ∈ spec.keys, (rest.render style entries).lookup key = none :=
      fun key hkey ↦ Fields.lookup_render_of_notMem (hkeys key hkey)
    obtain ⟨hissues, hnormal⟩ := Fields.read_render hrest hentries
    simp only [Fields.render, List.lookup_cons_self, Option.getD_some,
      Fields.render_cons_of_notMem hname]
    by_cases homit : (style.omitAbsent && value.isNull) = true
    · obtain ⟨-, hnull⟩ := Bool.and_eq_true_iff.1 homit
      obtain rfl := (Json.isNull_iff value).1 hnull
      have hfind := FieldSpec.find?_eq_none hothers
      have hdefault := FieldSpec.default_eq_null hstands hvalue
      simp only [if_pos homit, Fields.issues, Fields.normal, hfind, hdefault, hissues, hnormal,
        List.nil_append, Option.getD_some, Json.finiteEntries, Json.finite_null, and_self]
    · obtain ⟨hread, hback⟩ := Shape.read_render hshape hvalue
      have hfind : spec.find? ((style.nameOf spec, shape.render style value)
          :: rest.render style entries) = some (style.nameOf spec, shape.render style value) :=
        FieldSpec.find?_nameOf hothers
      have hwritten : style.nameOf spec ∉ rest.keys := hkeys _ (style.nameOf_mem_keys spec)
      simp only [if_neg homit, Fields.issues, Fields.normal, hfind, hread, hback,
        Fields.issues_cons_of_notMem hwritten, Fields.normal_cons_of_notMem hwritten, hissues,
        hnormal, List.map_nil, List.nil_append, Json.finiteEntries, and_self]

/-- Reading the entries written of an object of a union gives the entries back. -/
theorem Branches.read_render : ∀ {branches : Branches} {key : String} {found : Json}
    {entries : List (String × Json)} (known : List Tag), branches.isCoherent key = true →
      branches.isNormal found entries = true →
        (branches.render style found entries).lookup key = some found ∧
          branches.issues key known found (branches.render style found entries) = [] ∧
          branches.normal found (branches.render style found entries)
            = Json.finiteEntries entries
  | .nil, _, _, _, _, _, h => by simp [Branches.isNormal] at h
  | .cons tag fields rest, key, found, entries, known, hc, h => by
    obtain ⟨hbegins, hfields, hrest⟩ := Branches.isCoherent_cons.1 hc
    rw [Branches.isNormal] at h
    simp only [Branches.render, Branches.issues, Branches.normal]
    by_cases hsays : tag.isWritten found = true
    · simp only [if_pos hsays] at h ⊢
      obtain ⟨hissues, hnormal⟩ := Fields.read_render hfields h
      refine ⟨?_, by rw [hissues, List.map_nil], hnormal⟩
      rw [Fields.lookup_render_of_beginsWith hbegins h, Tag.isWritten_iff.1 hsays]
    · simp only [if_neg hsays] at h ⊢
      exact Branches.read_render known hrest h

end

/-! ## Keeping to a style -/

mutual

/-- Whether a document of the given shape keeps to a style. A record has the fields of its shape,
in order and under the names of the style: all of them, or only such as hold something. -/
def Shape.isInStyle (style : Style) : Shape → Json → Bool
  | .nullable inner, j => j.isNull || inner.isInStyle style j
  | .list item, j => j.items.all (item.isInStyle style)
  | .record _ fields, j => fields.isInStyle style j.entries
  | .variants key branches, j => branches.isInStyle style (j.get key) j.entries
  | _, _ => true

/-- Whether the entries of a record keep to a style. -/
def Fields.isInStyle (style : Style) : Fields → List (String × Json) → Bool
  | .nil, entries => entries.isEmpty
  | .cons _ _ rest, [] => style.omitAbsent && rest.isInStyle style []
  | .cons spec shape rest, (key, value) :: entries =>
    if key = style.nameOf spec then
      !(style.omitAbsent && value.isNull) && shape.isInStyle style value
        && rest.isInStyle style entries
    else style.omitAbsent && rest.isInStyle style ((key, value) :: entries)

/-- Whether the entries of an object that says it is `found` keep to a style. -/
def Branches.isInStyle (style : Style) :
    Branches → (found : Json) → List (String × Json) → Bool
  | .nil, _, _ => false
  | .cons tag fields rest, found, entries =>
    if tag.isWritten found then fields.isInStyle style entries
    else rest.isInStyle style found entries

end

theorem Fields.isInStyle_of_lookup_eq_none {spec : FieldSpec} {shape : Shape} {rest : Fields}
    (h : entries.lookup (style.nameOf spec) = none) :
    (Fields.cons spec shape rest).isInStyle style entries
      = (style.omitAbsent && rest.isInStyle style entries) := by
  match entries, h with
  | [], _ => rfl
  | (key, value) :: entries, h =>
    have hne : key ≠ style.nameOf spec := by
      rintro rfl
      simp at h
    simp only [isInStyle, if_neg hne]

mutual

/-- What is written of a document in normal form keeps to the style. -/
theorem Shape.isInStyle_render : ∀ {shape : Shape} {j : Json}, shape.isCoherent = true →
    shape.isNormal j = true → shape.isInStyle style (shape.render style j) = true
  | .text, _, _, _ | .flag, _, _, _ | .document, _, _, _ | .literal _, _, _, _ => rfl
  | .nullable inner, j, hc, h => by
    have hinner : inner.isCoherent = true := hc
    rw [Shape.isInStyle, Shape.render, Bool.or_eq_true]
    split
    · next hnull => exact .inl hnull
    · next hnull =>
      have hj := (Shape.isNormal_nullable_iff.1 h).resolve_left (hnull ∘ (Json.isNull_iff j).2)
      exact .inr (Shape.isInStyle_render hinner hj)
  | .list item, j, hc, h => by
    have hitem : item.isCoherent = true := hc
    obtain ⟨items, rfl, hitems⟩ := Shape.isNormal_list_iff.1 h
    simp only [Shape.render, Shape.isInStyle, Json.items, List.all_map, List.all_eq_true]
    intro x hx
    exact Shape.isInStyle_render hitem (hitems x hx)
  | .record _ fields, j, hc, h => by
    have hfields : fields.isCoherent = true := hc
    obtain ⟨entries, rfl, hentries⟩ := Shape.isNormal_record_iff.1 h
    exact Fields.isInStyle_render hfields hentries
  | .variants key branches, j, hc, h => by
    have hbranches : branches.isCoherent key = true := hc
    obtain ⟨entries, rfl, hentries⟩ := Shape.isNormal_variants_iff.1 h
    obtain ⟨hfound, -, -⟩ := Branches.read_render branches.tags hbranches hentries
    rw [Shape.render, Shape.isInStyle, Json.get_object, hfound]
    exact Branches.isInStyle_render hbranches hentries

/-- What is written of the entries of a record in normal form keeps to the style. -/
theorem Fields.isInStyle_render : ∀ {fields : Fields} {entries : List (String × Json)},
    fields.isCoherent = true → fields.isNormal entries = true →
      fields.isInStyle style (fields.render style entries) = true
  | .nil, [], _, _ => rfl
  | .cons spec shape rest, (name, value) :: entries, hc, h => by
    obtain ⟨-, hkeys, hshape, hrest⟩ := Fields.isCoherent_cons.1 hc
    simp only [Fields.isNormal, Bool.and_eq_true, beq_iff_eq] at h
    obtain ⟨⟨rfl, hvalue⟩, hentries⟩ := h
    have hname : spec.name ∉ rest.keys := hkeys _ (FieldSpec.mem_keys.2 (.inl rfl))
    have hwritten : style.nameOf spec ∉ rest.keys := hkeys _ (style.nameOf_mem_keys spec)
    have hothers := Fields.isInStyle_render hrest hentries
    simp only [Fields.render, List.lookup_cons_self, Option.getD_some,
      Fields.render_cons_of_notMem hname]
    by_cases homit : (style.omitAbsent && value.isNull) = true
    · obtain ⟨homits, -⟩ := Bool.and_eq_true_iff.1 homit
      have habsent : (rest.render style entries).lookup (style.nameOf spec) = none :=
        Fields.lookup_render_of_notMem hwritten
      rw [if_pos homit, Fields.isInStyle_of_lookup_eq_none habsent, homits, hothers, Bool.and_self]
    · have hkept : (style.omitAbsent && (shape.render style value).isNull) = false := by
        rw [Shape.isNull_render hvalue, Bool.eq_false_iff.2 homit]
      rw [if_neg homit, Fields.isInStyle, if_pos rfl, hkept,
        Shape.isInStyle_render hshape hvalue, hothers]
      rfl

/-- What is written of the entries of an object of a union keeps to the style. -/
theorem Branches.isInStyle_render : ∀ {branches : Branches} {key : String} {found : Json}
    {entries : List (String × Json)}, branches.isCoherent key = true →
      branches.isNormal found entries = true →
        branches.isInStyle style found (branches.render style found entries) = true
  | .nil, _, _, _, _, h => by simp [Branches.isNormal] at h
  | .cons tag fields rest, key, found, entries, hc, h => by
    obtain ⟨-, hfields, hrest⟩ := Branches.isCoherent_cons.1 hc
    rw [Branches.isNormal] at h
    simp only [Branches.render, Branches.isInStyle]
    by_cases hsays : tag.isWritten found = true
    · simp only [if_pos hsays] at h ⊢
      exact Fields.isInStyle_render hfields h
    · simp only [if_neg hsays] at h ⊢
      exact Branches.isInStyle_render hrest h

end

end Schema

end WorkflowArtifacts
