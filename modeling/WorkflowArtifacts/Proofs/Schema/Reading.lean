import Mathlib.Data.List.Forall2
import WorkflowArtifacts.Content
import WorkflowArtifacts.Proofs.Schema.Examination

/-!
# Contents that are as their class asks

A content that is as its class asks is a document in normal form, only that its records carry their
classes. `Shape.Reads` says which document. The document decides on the content
(`Shape.Reads.unique`), and the content is written exactly as the document is rendered, in any style
(`Shape.Reads.write_eq`).

Only shapes that describe everything are considered: nothing is said of classes that leave documents
open or that have several branches.
-/

namespace WorkflowArtifacts

/-- Classes are told apart by their titles. -/
theorem RecordClass.title_injective : Function.Injective RecordClass.title := by
  have h : ∀ c ∈ all, ∀ d ∈ all, c.title = d.title → c = d := by decide +kernel
  exact fun c d ↦ h c c.mem_all d d.mem_all

namespace Schema

/-! ## The document that a content is -/

mutual

/-- Whether a content of the given shape reads as a document. -/
def Shape.Reads : Shape → Content → Json → Prop
  | .text, c, j => ∃ s, c = .plain (.text s) ∧ j = .text s
  | .flag, c, j => ∃ b, c = .plain (.bool b) ∧ j = .bool b
  | .nullable inner, c, j => c = .plain .null ∧ j = .null ∨ j ≠ .null ∧ inner.Reads c j
  | .list item, c, j => ∃ cs js, c = .list cs ∧ j = .array js ∧ List.Forall₂ item.Reads cs js
  | .record title fields, c, j =>
    ∃ cls parts entries, c = .record cls parts ∧ j = .object entries ∧
      cls.shape = .record title fields ∧ fields.Reads parts entries
  | .document, _, _ | .literal _, _, _ | .variants _ _, _, _ => False

/-- Whether the fields of a record read as the entries of an object. -/
def Fields.Reads : Fields → List (String × Content) → List (String × Json) → Prop
  | .nil, parts, entries => parts = [] ∧ entries = []
  | .cons spec shape rest, parts, entries =>
    ∃ c j otherParts otherEntries, parts = (spec.name, c) :: otherParts ∧
      entries = (spec.name, j) :: otherEntries ∧ shape.Reads c j ∧
      rest.Reads otherParts otherEntries

end

/-! ## Contents of each kind -/

theorem Shape.reads_text (s : String) : text.Reads (.ofText s) (.text s) := ⟨s, rfl, rfl⟩

theorem Shape.reads_ofText? (s : Option String) :
    (nullable text).Reads (.ofText? s) (.ofText? s) := by
  cases s with
  | none => exact .inl ⟨rfl, rfl⟩
  | some s => exact .inr ⟨nofun, s, rfl, rfl⟩

theorem Shape.reads_ofBool? (b : Option Bool) :
    (nullable flag).Reads (.ofBool? b) (.ofBool? b) := by
  cases b with
  | none => exact .inl ⟨rfl, rfl⟩
  | some b => exact .inr ⟨nofun, b, rfl, rfl⟩

theorem Shape.reads_list {item : Shape} {cs : List Content} {js : List Json}
    (h : List.Forall₂ item.Reads cs js) : (list item).Reads (.list cs) (.array js) :=
  ⟨cs, js, rfl, rfl, h⟩

theorem Fields.reads_nil : Fields.nil.Reads [] [] := ⟨rfl, rfl⟩

theorem Fields.reads_cons {spec : FieldSpec} {shape : Shape} {rest : Fields} {c : Content}
    {j : Json} {parts : List (String × Content)} {entries : List (String × Json)}
    (h : shape.Reads c j) (hrest : rest.Reads parts entries) :
    (cons spec shape rest).Reads ((spec.name, c) :: parts) ((spec.name, j) :: entries) :=
  ⟨c, j, parts, entries, rfl, rfl, h, hrest⟩

/-- If each of several contents reads as a document, they do so together. -/
theorem exists_reads_of_forall {item : Shape} {cs : List Content}
    (h : ∀ c ∈ cs, ∃ j, item.Reads c j) : ∃ js, List.Forall₂ item.Reads cs js := by
  induction cs with
  | nil => exact ⟨[], .nil⟩
  | cons c cs ih =>
    obtain ⟨j, hj⟩ := h c List.mem_cons_self
    obtain ⟨js, hjs⟩ := ih fun d hd ↦ h d (List.mem_cons_of_mem c hd)
    exact ⟨j :: js, .cons hj hjs⟩

/-! ## Contents taken apart -/

theorem Shape.Reads.of_record {title : String} {fields : Fields} {cls : RecordClass}
    {parts : List (String × Content)} {j : Json}
    (h : (record title fields).Reads (.record cls parts) j) :
    ∃ entries, j = .object entries ∧ fields.Reads parts entries := by
  obtain ⟨_, _, entries, hc, hj, -, hfields⟩ := h
  injection hc with _ hparts
  exact ⟨entries, hj, hparts ▸ hfields⟩

theorem Fields.Reads.of_cons {spec : FieldSpec} {shape : Shape} {rest : Fields} {name : String}
    {c : Content} {parts : List (String × Content)} {entries : List (String × Json)}
    (h : (cons spec shape rest).Reads ((name, c) :: parts) entries) :
    ∃ j others, entries = (spec.name, j) :: others ∧ shape.Reads c j ∧
      rest.Reads parts others := by
  obtain ⟨_, j, _, others, hparts, he, hc, hrest⟩ := h
  injection hparts with hfirst hparts
  injection hfirst with _ hcontent
  exact ⟨j, others, he, hcontent ▸ hc, hparts ▸ hrest⟩

theorem Shape.Reads.of_list_map {α : Type} {item : Shape} {xs : List α} {content : α → Content}
    {j : Json} (h : (list item).Reads (.list (xs.map content)) j) :
    List.Forall₂ (fun x k ↦ item.Reads (content x) k) xs j.items := by
  obtain ⟨_, js, hc, rfl, hitems⟩ := h
  injection hc with hcs
  rw [← hcs, List.forall₂_map_left_iff] at hitems
  exact hitems

/-! ## The document is in normal form -/

/-- What the second of two related things has, whatever the first one is, all of them have. -/
theorem forall_mem_of_forall₂ {α β : Type} {R : α → β → Prop} {P : β → Prop} {xs : List α}
    {ys : List β} (h : List.Forall₂ R xs ys) (hP : ∀ {x y}, R x y → P y) : ∀ y ∈ ys, P y := by
  induction h with
  | nil => exact fun y hy ↦ absurd hy List.not_mem_nil
  | cons hxy _ ih => exact List.forall_mem_cons.2 ⟨hP hxy, ih⟩

mutual

theorem Shape.Reads.isNormal : ∀ {shape : Shape} {c : Content} {j : Json}, shape.Reads c j →
    shape.isNormal j = true
  | .text, _, _, ⟨_, _, hj⟩ => by rw [hj]; rfl
  | .flag, _, _, ⟨_, _, hj⟩ => by rw [hj]; rfl
  | .nullable inner, c, j, h => by
    rw [Shape.isNormal_nullable_iff]
    rcases h with ⟨-, hj⟩ | ⟨-, hinner⟩
    · exact .inl hj
    · exact .inr (Shape.Reads.isNormal hinner)
  | .list item, _, _, ⟨_, js, _, hj, hitems⟩ =>
    Shape.isNormal_list_iff.2 ⟨js, hj, forall_mem_of_forall₂ hitems fun h ↦ Shape.Reads.isNormal h⟩
  | .record _ fields, _, _, ⟨_, _, entries, _, hj, _, hfields⟩ =>
    Shape.isNormal_record_iff.2 ⟨entries, hj, Fields.Reads.isNormal hfields⟩

theorem Fields.Reads.isNormal : ∀ {fields : Fields} {parts : List (String × Content)}
    {entries : List (String × Json)}, fields.Reads parts entries → fields.isNormal entries = true
  | .nil, _, _, ⟨_, he⟩ => by rw [he]; rfl
  | .cons spec shape rest, _, _, ⟨c, j, parts, entries, _, he, hshape, hrest⟩ => by
    rw [he, Fields.isNormal, Shape.Reads.isNormal hshape, Fields.Reads.isNormal hrest]
    simp

end

/-! ## The document decides on the content -/

mutual

/-- Contents that read as the same document are the same. -/
theorem Shape.Reads.unique : ∀ {shape : Shape} {c d : Content} {j : Json}, shape.Reads c j →
    shape.Reads d j → c = d
  | .text, _, _, _, ⟨s, hc, hj⟩, ⟨s', hd, hj'⟩ => by
    rw [hj] at hj'
    rw [hc, hd, hj']
  | .flag, _, _, _, ⟨b, hc, hj⟩, ⟨b', hd, hj'⟩ => by
    rw [hj] at hj'
    rw [hc, hd, hj']
  | .nullable inner, c, d, j, hc, hd => by
    rcases hc with ⟨hc, hj⟩ | ⟨hj, hc⟩ <;> rcases hd with ⟨hd, hj'⟩ | ⟨hj', hd⟩
    · rw [hc, hd]
    · exact absurd hj hj'
    · exact absurd hj' hj
    · exact Shape.Reads.unique hc hd
  | .list item, _, _, _, ⟨cs, js, hc, hj, hcs⟩, ⟨ds, js', hd, hj', hds⟩ => by
    obtain rfl : js = js' := Json.array.inj (hj.symm.trans hj')
    rw [hc, hd]
    congr 1
    clear hc hd hj hj'
    induction hcs generalizing ds with
    | nil => rw [List.forall₂_nil_right_iff.1 hds]
    | cons hx _ ih =>
      obtain ⟨d, others, hd, hothers, rfl⟩ := List.forall₂_cons_right_iff.1 hds
      rw [Shape.Reads.unique hx hd, ih others hothers]
  | .record title fields, _, _, _, ⟨cls, parts, entries, hc, hj, hcls, hparts⟩,
      ⟨cls', parts', entries', hd, hj', hcls', hparts'⟩ => by
    obtain rfl : entries = entries' := Json.object.inj (hj.symm.trans hj')
    have htitle : cls.title = cls'.title := by
      rw [RecordClass.title, hcls, RecordClass.title, hcls']
    rw [hc, hd, Fields.Reads.unique hparts hparts', RecordClass.title_injective htitle]

theorem Fields.Reads.unique : ∀ {fields : Fields} {parts parts' : List (String × Content)}
    {entries : List (String × Json)}, fields.Reads parts entries → fields.Reads parts' entries →
      parts = parts'
  | .nil, _, _, _, ⟨hp, _⟩, ⟨hp', _⟩ => hp.trans hp'.symm
  | .cons spec shape rest, _, _, _, ⟨c, j, others, entries, hp, he, hc, hothers⟩,
      ⟨c', j', others', entries', hp', he', hc', hothers'⟩ => by
    rw [he] at he'
    simp only [List.cons.injEq, Prod.mk.injEq, true_and] at he'
    obtain ⟨rfl, rfl⟩ := he'
    rw [hp, hp', Shape.Reads.unique hc hc', Fields.Reads.unique hothers hothers']

end

/-! ## Writing -/

/-- A content is absent exactly if it reads as the absent value. -/
theorem Shape.Reads.isAbsent_eq : ∀ {shape : Shape} {c : Content} {j : Json}, shape.Reads c j →
    c.isAbsent = j.isNull
  | .text, _, _, ⟨_, hc, hj⟩ => by rw [hc, hj]; rfl
  | .flag, _, _, ⟨_, hc, hj⟩ => by rw [hc, hj]; rfl
  | .nullable inner, c, j, h => by
    rcases h with ⟨hc, hj⟩ | ⟨-, hinner⟩
    · rw [hc, hj]
      rfl
    · exact Shape.Reads.isAbsent_eq hinner
  | .list _, _, _, ⟨_, _, hc, hj, _⟩ => by rw [hc, hj]; rfl
  | .record _ _, _, _, ⟨_, _, _, hc, hj, _, _⟩ => by rw [hc, hj]; rfl

theorem Fields.mem_keys_of_find? {name : String} {spec : FieldSpec} : ∀ {fields : Fields},
    fields.find? name = some spec → name ∈ fields.keys
  | .nil, h => by simp [find?] at h
  | .cons first shape rest, h => by
    rw [find?] at h
    rw [keys, List.mem_append, FieldSpec.mem_keys]
    split at h
    · next heq => exact .inl (.inl heq.symm)
    · exact .inr (mem_keys_of_find? h)

section

variable {style : Style} {room : Nat} {writeEntry : Item → Except Fault Json}

mutual

/-- A content is written as the document that it reads as is rendered. -/
theorem Shape.Reads.write_eq : ∀ {shape : Shape} {c : Content} {j : Json},
    shape.isCoherent = true → shape.Reads c j →
      c.write style room writeEntry = .ok (shape.render style j)
  | .text, _, _, _, ⟨_, hc, hj⟩ => by rw [hc, hj]; rfl
  | .flag, _, _, _, ⟨_, hc, hj⟩ => by rw [hc, hj]; rfl
  | .nullable inner, c, j, hcoherent, h => by
    have hinner : inner.isCoherent = true := hcoherent
    rcases h with ⟨hc, hj⟩ | ⟨hj, hc⟩
    · rw [hc, hj]
      rfl
    · have hpresent : ¬ j.isNull = true := fun h ↦ hj ((Json.isNull_iff j).1 h)
      rw [Shape.Reads.write_eq hinner hc, Shape.render, if_neg hpresent]
  | .list item, _, _, hcoherent, ⟨cs, js, hc, hj, hcs⟩ => by
    have hitem : item.isCoherent = true := hcoherent
    have hitems : Content.writeItems style room writeEntry cs
        = .ok (js.map (item.render style)) := by
      clear hc hj
      induction hcs with
      | nil => rfl
      | cons hx _ ih =>
        rw [Content.writeItems, Shape.Reads.write_eq hitem hx, ih]
        rfl
    rw [hc, hj, Content.write, hitems]
    rfl
  | .record title fields, _, _, hcoherent, ⟨cls, parts, entries, hc, hj, hcls, hparts⟩ => by
    have hfields : fields.isCoherent = true := hcoherent
    have hcls' : cls.fields = fields := by rw [RecordClass.fields, hcls]
    have hnames : ∀ name spec, fields.find? name = some spec →
        cls.fields.find? name = some spec := fun name spec h ↦ hcls' ▸ h
    have hwrite := Fields.Reads.write_eq hfields hnames hparts
    rw [hc, hj, Content.write, hwrite]
    rfl

/-- The fields of a record are written as the entries that they read as are rendered, where the
class knows the fields by their names. -/
theorem Fields.Reads.write_eq : ∀ {fields : Fields} {cls : RecordClass}
    {parts : List (String × Content)} {entries : List (String × Json)},
    fields.isCoherent = true →
      (∀ name spec, fields.find? name = some spec → cls.fields.find? name = some spec) →
        fields.Reads parts entries →
          Content.writeFields style room writeEntry cls parts = .ok (fields.render style entries)
  | .nil, _, _, _, _, _, ⟨hp, _⟩ => by rw [hp]; rfl
  | .cons spec shape rest, cls, _, _, hcoherent, hnames,
      ⟨c, j, parts, entries, hp, he, hc, hparts⟩ => by
    obtain ⟨-, hkeys, hshape, hrest⟩ := Fields.isCoherent_cons.1 hcoherent
    have hname : spec.name ∉ rest.keys := hkeys _ (FieldSpec.mem_keys.2 (.inl rfl))
    have hwritten : cls.writtenName style spec.name = style.nameOf spec := by
      rw [RecordClass.writtenName, hnames spec.name spec (if_pos rfl)]
      rfl
    have hothers : ∀ name spec', rest.find? name = some spec' →
        cls.fields.find? name = some spec' := by
      intro name spec' h
      have hne : spec.name ≠ name := fun heq ↦ hname (heq ▸ Fields.mem_keys_of_find? h)
      exact hnames name spec' ((if_neg hne).trans h)
    have hwrite := Fields.Reads.write_eq hrest hothers hparts
    rw [hp, he, Content.writeFields, hc.isAbsent_eq, Shape.Reads.write_eq hshape hc, hwrite,
      hwritten, Fields.render, List.lookup_cons_self, Option.getD_some,
      Fields.render_cons_of_notMem hname]
    split <;> rfl

end

end

/-! ## Comparing -/

section

variable {sameEntry : Item → Item → Except Fault Bool}

mutual

/-- A content that reads as a document counts as equal to itself. -/
theorem Shape.Reads.same_self : ∀ {shape : Shape} {c : Content} {j : Json}, shape.Reads c j →
    c.same sameEntry c = .ok true
  | .text, _, _, ⟨s, hc, _⟩ => by
    rw [hc]
    simp [Content.same, Content.document?, Json.alike, Json.sameScalar, Json.quantity?]
  | .flag, _, _, ⟨b, hc, _⟩ => by
    rw [hc]
    cases b <;> rfl
  | .nullable inner, c, j, h => by
    rcases h with ⟨hc, -⟩ | ⟨-, hinner⟩
    · rw [hc]
      rfl
    · exact Shape.Reads.same_self hinner
  | .list item, _, _, ⟨cs, js, hc, hj, hcs⟩ => by
    have hitems : Content.sameItems sameEntry cs cs = .ok true := by
      clear hc hj
      induction hcs with
      | nil => rfl
      | cons hx _ ih =>
        rw [Content.sameItems, Shape.Reads.same_self hx]
        exact ih
    rw [hc, Content.same]
    simp only [if_true]
    exact hitems
  | .record title fields, _, _, ⟨cls, parts, entries, hc, _, _, hparts⟩ => by
    rw [hc, Content.same]
    simp only [if_true]
    exact Fields.Reads.same_self hparts

theorem Fields.Reads.same_self : ∀ {fields : Fields} {parts : List (String × Content)}
    {entries : List (String × Json)}, fields.Reads parts entries →
      Content.sameFields sameEntry parts parts = .ok true
  | .nil, _, _, ⟨hp, _⟩ => by rw [hp]; rfl
  | .cons _ _ _, _, _, ⟨_, _, _, _, hp, _, hc, hothers⟩ => by
    rw [hp, Content.sameFields, Shape.Reads.same_self hc]
    exact Fields.Reads.same_self hothers

end

end

end Schema

end WorkflowArtifacts
