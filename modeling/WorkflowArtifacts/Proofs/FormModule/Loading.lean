import Mathlib.Data.Set.List
import WorkflowArtifacts.Proofs.Schema.Reading
import WorkflowArtifacts.Proofs.Store.Forest
import WorkflowArtifacts.Proofs.Store.Readings

/-!
# Records of form modules from documents

The records that a document in normal form describes are made apart from all others: they form a
tree, whose root reads as the document (`Store.Loaded`). This goes class by class, parts before
wholes, like the loading itself.

The other way round, whatever happened to it since, a tree of records as they should be reads as
some document in normal form (`Store.exists_reads_formModule`).
-/

namespace WorkflowArtifacts

open Build Schema

/-! ## Documents in normal form, taken apart -/

namespace Schema

theorem Fields.isNormal_cons_iff {spec : FieldSpec} {shape : Shape} {rest : Fields}
    {entries : List (String × Json)} :
    (cons spec shape rest).isNormal entries = true ↔
      ∃ value others, entries = (spec.name, value) :: others ∧ shape.isNormal value = true ∧
        rest.isNormal others = true := by
  cases entries with
  | nil => simp [isNormal]
  | cons entry others =>
    obtain ⟨name, value⟩ := entry
    simp [isNormal, and_assoc]

theorem Fields.isNormal_nil_iff {entries : List (String × Json)} :
    nil.isNormal entries = true ↔ entries = [] := by
  rw [isNormal, List.isEmpty_iff]

theorem Shape.isNormal_nullable_text_iff {j : Json} :
    (nullable text).isNormal j = true ↔ ∃ s, j = .ofText? s := by
  cases j <;> simp [isNormal, Json.isNull, Json.text?, Json.ofText?, Option.exists]

theorem Shape.isNormal_nullable_flag_iff {j : Json} :
    (nullable flag).isNormal j = true ↔ ∃ b, j = .ofBool? b := by
  cases j <;> simp [isNormal, Json.isNull, Json.bool?, Json.ofBool?, Option.exists]

end Schema

/-! ## Forests that read as documents -/

/-- Whether records of one shape were made of documents: they are the roots of new trees that have
nothing in common, and each reads as its document. -/
structure Store.Loaded (shape : Shape) (s t : Store) (roots : List Entity) (js : List Json) : Prop
    extends s.Forest Store.Untouched t roots where
  /-- The roots read as the documents. -/
  reads : List.Forall₂ (fun e j ↦ shape.Reads (e.content t) j) roots js

namespace Store.Loaded

variable {shape : Shape} {s t u : Store} {roots more : List Entity} {js ks : List Json}

/-- What reads as documents still does so when it is kept. -/
theorem reads_of_kept (h : s.Loaded shape t roots js) (hkept : ∀ e ∈ roots, e.Kept t u) :
    List.Forall₂ (fun e j ↦ shape.Reads (e.content u) j) roots js := by
  have hreads := h.reads
  clear h
  induction hreads with
  | nil => exact .nil
  | @cons e j roots js he _ ih =>
    refine .cons ?_ (ih fun x hx ↦ hkept x (List.mem_cons_of_mem e hx))
    rw [(hkept e List.mem_cons_self).content_eq]
    exact he

theorem append (h : s.Loaded shape t roots js) (h' : t.Loaded shape u more ks) :
    s.Loaded shape u (roots ++ more) (js ++ ks) where
  toForest := h.toForest.append h'.toForest
  reads := List.rel_append (h.reads_of_kept fun _ he ↦ h.kept h'.toForest he) h'.reads

/-- Documents that are each made a record of are so in a row. -/
theorem mapM {α : Type} {load : Json → Build α} (root : α → Entity)
    (hload : ∀ j ∈ js, ∀ s : Store, s.Closed →
      s.Loaded shape (load j s).2 [root (load j s).1] [j])
    (hs : s.Closed) : s.Loaded shape (js.mapM load s).2 ((js.mapM load s).1.map root) js := by
  induction js generalizing s with
  | nil => exact ⟨.nil Untouched hs, .nil⟩
  | cons j js ih =>
    have hfirst := hload j List.mem_cons_self s hs
    have hrest := ih (fun k hk ↦ hload k (List.mem_cons_of_mem j hk)) hfirst.closed
    rw [List.mapM_cons]
    exact hfirst.append hrest

/-- A new record that has the trees as its parts reads as a document, provided that it does so
wherever it stands while the trees are kept. -/
theorem alloc {β : Type} [Stored β] [Recorded β] {j : Json} (h : s.Forest Untouched t roots) (x : β)
    (hx : ∀ (u : Store) (r : Ref β), u.get r = x → (Recorded.entity r).parts u = roots ∧
      (Recorded.entity r).IsPlain u ∧ (Recorded.entity r).looseRefs u = [])
    (hreads : ∀ (u : Store) (r : Ref β), u.get r = x → (∀ e ∈ roots, e.Kept t u) →
      shape.Reads ((Recorded.entity r).content u) j) :
    s.Loaded shape (t.alloc x).2 [Recorded.entity (t.alloc x).1] [j] where
  toForest := h.alloc x hx
  reads := .cons (hreads _ _ (t.get_alloc x) fun e he ↦
    kept_alloc h.closed (h.exists_root e he) x) .nil

/-- A single record reads as its document while it is kept. -/
theorem read_of_kept {root : Entity} {j : Json} (h : s.Loaded shape t [root] [j])
    (hkept : ∀ e ∈ [root], e.Kept t u) : shape.Reads (root.content u) j := by
  cases h.reads_of_kept hkept with
  | cons hread _ => exact hread

end Store.Loaded

/-- The members of a list read as documents if the records that they are do so. -/
theorem Schema.Shape.reads_map {shape : Shape} {t : Store} {α : Type} {root : α → Entity}
    {refs : List α} {js : List Json}
    (h : List.Forall₂ (fun e j ↦ shape.Reads (e.content t) j) (refs.map root) js) :
    (Shape.list shape).Reads (.list (refs.map fun r ↦ (root r).content t)) (.array js) := by
  refine Shape.reads_list ?_
  rw [List.forall₂_map_left_iff] at h ⊢
  exact h

/-- Texts read as themselves. -/
theorem Schema.Shape.reads_texts {js : List Json} (h : ∀ j ∈ js, ∃ text, j = .text text) :
    (Shape.list .text).Reads (.list (js.map (.ofAny 0))) (.array js) := by
  refine Shape.reads_list ?_
  rw [List.forall₂_map_left_iff, List.forall₂_same]
  intro j hj
  obtain ⟨text, rfl⟩ := h j hj
  exact Shape.reads_text text

/-! ## Loading

For each class a document in normal form is taken apart once: what is made of it, and which content
reads as it. -/

section

variable {s : Store} {j : Json}

theorem ControlParameter.load_of_isNormal (hj : Shapes.controlParameter.isNormal j = true) :
    ∃ x : ControlParameter, load j = alloc x ∧ Shapes.controlParameter.Reads x.content j := by
  obtain ⟨entries, rfl, h⟩ := Shape.isNormal_record_iff.1 hj
  obtain ⟨name, entries, rfl, hname, h⟩ := Fields.isNormal_cons_iff.1 h
  obtain ⟨value, entries, rfl, hvalue, h⟩ := Fields.isNormal_cons_iff.1 h
  obtain rfl := Fields.isNormal_nil_iff.1 h
  obtain ⟨name, rfl⟩ := Shape.isNormal_text_iff.1 hname
  obtain ⟨value, rfl⟩ := Shape.isNormal_text_iff.1 hvalue
  refine ⟨{ name, value }, rfl, .controlParameter, _, _, rfl, rfl, rfl, ?_⟩
  exact Fields.reads_cons (Shape.reads_text name)
    (Fields.reads_cons (Shape.reads_text value) Fields.reads_nil)

theorem ControlParameter.loaded (hj : Shapes.controlParameter.isNormal j = true) (hs : s.Closed) :
    s.Loaded Shapes.controlParameter (load j s).2 [.controlParameter (load j s).1] [j] := by
  obtain ⟨x, hload, hreads⟩ := load_of_isNormal hj
  rw [hload]
  refine .alloc (.nil _ hs) x (fun _ _ _ ↦ ⟨rfl, trivial, rfl⟩) fun u r hget _ ↦ ?_
  change Shape.Reads _ (u.get r).content _
  rwa [hget]

theorem Control.load_of_isNormal (hj : Shapes.control.isNormal j = true) :
    ∃ template parameters,
      load j = parameters.mapM ControlParameter.load >>= (fun refs ↦
        alloc { template, parameters := refs }) ∧
      (∀ p ∈ parameters, Shapes.controlParameter.isNormal p = true) ∧
      ∀ c, (Shape.list Shapes.controlParameter).Reads c (.array parameters) →
        Shapes.control.Reads
          (.record .control [("template", .ofText? template), ("control_parameters", c)]) j := by
  obtain ⟨entries, rfl, h⟩ := Shape.isNormal_record_iff.1 hj
  obtain ⟨template, entries, rfl, htemplate, h⟩ := Fields.isNormal_cons_iff.1 h
  obtain ⟨parameters, entries, rfl, hparameters, h⟩ := Fields.isNormal_cons_iff.1 h
  obtain rfl := Fields.isNormal_nil_iff.1 h
  obtain ⟨template, rfl⟩ := Shape.isNormal_nullable_text_iff.1 htemplate
  obtain ⟨parameters, rfl, hitems⟩ := Shape.isNormal_list_iff.1 hparameters
  refine ⟨template, parameters, by cases template <;> rfl, hitems, fun c hc ↦ ?_⟩
  exact ⟨.control, _, _, rfl, rfl, rfl, Fields.reads_cons (Shape.reads_ofText? template)
    (Fields.reads_cons hc Fields.reads_nil)⟩

theorem Control.loaded (hj : Shapes.control.isNormal j = true) (hs : s.Closed) :
    s.Loaded Shapes.control (load j s).2 [.control (load j s).1] [j] := by
  obtain ⟨template, parameters, hload, hparameters, hreads⟩ := load_of_isNormal hj
  have hmade := Store.Loaded.mapM Entity.controlParameter
    (fun p hp s hs ↦ ControlParameter.loaded (hparameters p hp) hs) hs
  rw [hload, bind_apply]
  refine .alloc hmade.toForest _ (fun u r hget ↦ ⟨?_, trivial, rfl⟩) fun u r hget hkept ↦ ?_
  · change (u.get r).parameters.map _ = _
    rw [hget]
  · change Shape.Reads _ (u.controlContent r) _
    rw [Store.controlContent, hget]
    exact hreads _ (Shape.reads_map (hmade.reads_of_kept hkept))

theorem FormSet.load_of_isNormal (hj : Shapes.formSet.isNormal j = true) :
    ∃ x : FormSet, load j = alloc x ∧ Shapes.formSet.Reads x.content j := by
  obtain ⟨entries, rfl, h⟩ := Shape.isNormal_record_iff.1 hj
  obtain ⟨id, entries, rfl, hid, h⟩ := Fields.isNormal_cons_iff.1 h
  obtain ⟨appearance, entries, rfl, happearance, h⟩ := Fields.isNormal_cons_iff.1 h
  obtain ⟨labelId, entries, rfl, hlabelId, h⟩ := Fields.isNormal_cons_iff.1 h
  obtain ⟨template, entries, rfl, htemplate, h⟩ := Fields.isNormal_cons_iff.1 h
  obtain ⟨parent, entries, rfl, hparent, h⟩ := Fields.isNormal_cons_iff.1 h
  obtain rfl := Fields.isNormal_nil_iff.1 h
  obtain ⟨id, rfl⟩ := Shape.isNormal_text_iff.1 hid
  obtain ⟨appearance, rfl⟩ := Shape.isNormal_nullable_text_iff.1 happearance
  obtain ⟨labelId, rfl⟩ := Shape.isNormal_nullable_text_iff.1 hlabelId
  obtain ⟨template, rfl⟩ := Shape.isNormal_nullable_text_iff.1 htemplate
  obtain ⟨parent, rfl⟩ := Shape.isNormal_nullable_text_iff.1 hparent
  refine ⟨{ id, appearance, labelId, template, parent }, ?_, .formSet, _, _, rfl, rfl, rfl, ?_⟩
  · cases appearance <;> cases labelId <;> cases template <;> cases parent <;> rfl
  · exact Fields.reads_cons (Shape.reads_text id) <|
      Fields.reads_cons (Shape.reads_ofText? appearance) <|
      Fields.reads_cons (Shape.reads_ofText? labelId) <|
      Fields.reads_cons (Shape.reads_ofText? template) <|
      Fields.reads_cons (Shape.reads_ofText? parent) Fields.reads_nil

theorem FormSet.loaded (hj : Shapes.formSet.isNormal j = true) (hs : s.Closed) :
    s.Loaded Shapes.formSet (load j s).2 [.formSet (load j s).1] [j] := by
  obtain ⟨x, hload, hreads⟩ := load_of_isNormal hj
  rw [hload]
  refine .alloc (.nil _ hs) x (fun _ _ _ ↦ ⟨rfl, trivial, rfl⟩) fun u r hget _ ↦ ?_
  change Shape.Reads _ (u.get r).content _
  rwa [hget]

/-- The control of a field, if the document has one. -/
def Control.load? : Json → Build (Option (Ref Control))
  | .null => pure none
  | document => some <$> Control.load document

theorem FormField.load_of_isNormal (hj : Shapes.formField.isNormal j = true) :
    ∃ id labelId set readOnly mandatory help document,
      load j = Control.load? document >>= (fun control ↦
        alloc { id, labelId, set, readOnly, mandatory, help, control }) ∧
      (Shape.nullable Shapes.control).isNormal document = true ∧
      ∀ c, (Shape.nullable Shapes.control).Reads c document →
        Shapes.formField.Reads
          (.record .formField
            [("id", .ofText? id), ("label_id", .ofText? labelId), ("set", .ofText? set),
              ("read_only", .ofBool? readOnly), ("mandatory", .ofBool? mandatory),
              ("help", .ofText? help), ("control", c)]) j := by
  obtain ⟨entries, rfl, h⟩ := Shape.isNormal_record_iff.1 hj
  obtain ⟨id, entries, rfl, hid, h⟩ := Fields.isNormal_cons_iff.1 h
  obtain ⟨labelId, entries, rfl, hlabelId, h⟩ := Fields.isNormal_cons_iff.1 h
  obtain ⟨set, entries, rfl, hset, h⟩ := Fields.isNormal_cons_iff.1 h
  obtain ⟨readOnly, entries, rfl, hreadOnly, h⟩ := Fields.isNormal_cons_iff.1 h
  obtain ⟨mandatory, entries, rfl, hmandatory, h⟩ := Fields.isNormal_cons_iff.1 h
  obtain ⟨help, entries, rfl, hhelp, h⟩ := Fields.isNormal_cons_iff.1 h
  obtain ⟨document, entries, rfl, hdocument, h⟩ := Fields.isNormal_cons_iff.1 h
  obtain rfl := Fields.isNormal_nil_iff.1 h
  obtain ⟨id, rfl⟩ := Shape.isNormal_nullable_text_iff.1 hid
  obtain ⟨labelId, rfl⟩ := Shape.isNormal_nullable_text_iff.1 hlabelId
  obtain ⟨set, rfl⟩ := Shape.isNormal_nullable_text_iff.1 hset
  obtain ⟨readOnly, rfl⟩ := Shape.isNormal_nullable_flag_iff.1 hreadOnly
  obtain ⟨mandatory, rfl⟩ := Shape.isNormal_nullable_flag_iff.1 hmandatory
  obtain ⟨help, rfl⟩ := Shape.isNormal_nullable_text_iff.1 hhelp
  refine ⟨id, labelId, set, readOnly, mandatory, help, document, ?_, hdocument, fun c hc ↦ ?_⟩
  · calc load _
        = (Control.load? document >>= fun control ↦
            alloc
              { id := (Json.ofText? id).text?
                labelId := (Json.ofText? labelId).text?
                set := (Json.ofText? set).text?
                readOnly := (Json.ofBool? readOnly).bool?
                mandatory := (Json.ofBool? mandatory).bool?
                help := (Json.ofText? help).text?
                control }) := by cases document <;> rfl
      _ = _ := by simp only [Json.text?_ofText?, Json.bool?_ofBool?]
  · exact ⟨.formField, _, _, rfl, rfl, rfl, Fields.reads_cons (Shape.reads_ofText? id)
      (Fields.reads_cons (Shape.reads_ofText? labelId) (Fields.reads_cons (Shape.reads_ofText? set)
        (Fields.reads_cons (Shape.reads_ofBool? readOnly)
          (Fields.reads_cons (Shape.reads_ofBool? mandatory)
            (Fields.reads_cons (Shape.reads_ofText? help)
              (Fields.reads_cons hc Fields.reads_nil))))))⟩

theorem FormField.loaded (hj : Shapes.formField.isNormal j = true) (hs : s.Closed) :
    s.Loaded Shapes.formField (load j s).2 [.formField (load j s).1] [j] := by
  obtain ⟨id, labelId, set, readOnly, mandatory, help, document, hload, hdocument, hreads⟩ :=
    load_of_isNormal hj
  rw [hload, bind_apply]
  rcases Shape.isNormal_nullable_iff.1 hdocument with rfl | hcontrol
  · refine .alloc (.nil _ hs) _ (fun u r hget ↦ ⟨?_, trivial, rfl⟩) fun u r hget _ ↦ ?_
    · change (u.get r).control.toList.map _ = _
      rw [hget]
      rfl
    · change Shape.Reads _ (u.formFieldContent r) _
      rw [Store.formFieldContent, hget]
      exact hreads _ (.inl ⟨rfl, rfl⟩)
  · have hmade := Control.loaded hcontrol hs
    have hpresent : document ≠ .null := by
      rintro rfl
      exact absurd hcontrol Bool.false_ne_true
    have hsome : Control.load? document = some <$> Control.load document := by
      cases document <;> first | rfl | exact absurd rfl hpresent
    rw [hsome]
    refine .alloc hmade.toForest _ (fun u r hget ↦ ⟨?_, trivial, rfl⟩) fun u r hget hkept ↦ ?_
    · change (u.get r).control.toList.map _ = _
      rw [hget]
      rfl
    · change Shape.Reads _ (u.formFieldContent r) _
      rw [Store.formFieldContent, hget]
      exact hreads _ (.inr ⟨hpresent, hmade.read_of_kept hkept⟩)

theorem Visibility.load_of_isNormal (hj : Shapes.visibility.isNormal j = true) :
    ∃ x : Visibility, load j = alloc x ∧ (∀ j ∈ x.shown ++ x.hidden, ∃ text, j = .text text) ∧
      Shapes.visibility.Reads x.content j := by
  obtain ⟨entries, rfl, h⟩ := Shape.isNormal_record_iff.1 hj
  obtain ⟨shown, entries, rfl, hshown, h⟩ := Fields.isNormal_cons_iff.1 h
  obtain ⟨hidden, entries, rfl, hhidden, h⟩ := Fields.isNormal_cons_iff.1 h
  obtain rfl := Fields.isNormal_nil_iff.1 h
  obtain ⟨shown, rfl, hshownTexts⟩ := Shape.isNormal_list_iff.1 hshown
  obtain ⟨hidden, rfl, hhiddenTexts⟩ := Shape.isNormal_list_iff.1 hhidden
  have htexts (js : List Json) (hjs : ∀ j ∈ js, Shape.text.isNormal j = true) :
      ∀ j ∈ js, ∃ text, j = .text text := fun j hj ↦ Shape.isNormal_text_iff.1 (hjs j hj)
  refine ⟨{ shown, hidden }, rfl, fun j hj ↦ ?_, .visibility, _, _, rfl, rfl, rfl, ?_⟩
  · rcases List.mem_append.1 hj with hj | hj
    · exact htexts shown hshownTexts j hj
    · exact htexts hidden hhiddenTexts j hj
  · exact Fields.reads_cons (Shape.reads_texts (htexts shown hshownTexts))
      (Fields.reads_cons (Shape.reads_texts (htexts hidden hhiddenTexts)) Fields.reads_nil)

theorem Visibility.loaded (hj : Shapes.visibility.isNormal j = true) (hs : s.Closed) :
    s.Loaded Shapes.visibility (load j s).2 [.visibility (load j s).1] [j] := by
  obtain ⟨x, hload, htexts, hreads⟩ := load_of_isNormal hj
  rw [hload]
  refine .alloc (.nil _ hs) x (fun u r hget ↦ ⟨rfl, ?_, rfl⟩) fun u r hget _ ↦ ?_
  · change ∀ j ∈ (u.get r).shown ++ (u.get r).hidden, _
    rwa [hget]
  · change Shape.Reads _ (u.get r).content _
    rwa [hget]

theorem Appearance.load_of_isNormal (hj : Shapes.appearance.isNormal j = true) :
    ∃ sets fields,
      load j = sets.mapM FormSet.load >>= (fun sets ↦ fields.mapM FormField.load >>= fun fields ↦
        alloc { sets, fields := fields.map .field }) ∧
      (∀ x ∈ sets, Shapes.formSet.isNormal x = true) ∧
      (∀ x ∈ fields, Shapes.formField.isNormal x = true) ∧
      ∀ c d, (Shape.list Shapes.formSet).Reads c (.array sets) →
        (Shape.list Shapes.formField).Reads d (.array fields) →
          Shapes.appearance.Reads
            (.record .appearance [("form_sets", c), ("form_fields", d)]) j := by
  obtain ⟨entries, rfl, h⟩ := Shape.isNormal_record_iff.1 hj
  obtain ⟨sets, entries, rfl, hsets, h⟩ := Fields.isNormal_cons_iff.1 h
  obtain ⟨fields, entries, rfl, hfields, h⟩ := Fields.isNormal_cons_iff.1 h
  obtain rfl := Fields.isNormal_nil_iff.1 h
  obtain ⟨sets, rfl, hsetItems⟩ := Shape.isNormal_list_iff.1 hsets
  obtain ⟨fields, rfl, hfieldItems⟩ := Shape.isNormal_list_iff.1 hfields
  refine ⟨sets, fields, rfl, hsetItems, hfieldItems, fun c d hc hd ↦ ?_⟩
  exact ⟨.appearance, _, _, rfl, rfl, rfl,
    Fields.reads_cons hc (Fields.reads_cons hd Fields.reads_nil)⟩

/-- The parts of an appearance that lists nothing but fields. -/
theorem Appearance.parts_eq {r : Ref Appearance} {sets : List (Ref FormSet)}
    {fields : List (Ref FormField)} (hget : s.get r = { sets, fields := fields.map .field }) :
    (Entity.appearance r).parts s = sets.map .formSet ++ fields.map .formField := by
  rw [Entity.parts, hget, List.flatMap_map]
  exact congrArg _ List.map_eq_flatMap.symm

/-- An appearance that is as it should be lists nothing but fields. -/
theorem Appearance.exists_fields {r : Ref Appearance} (h : (Entity.appearance r).IsPlain s) :
    ∃ fields : List (Ref FormField), (s.get r).fields = fields.map .field := by
  have hrange : ∀ entry ∈ (s.get r).fields, entry ∈ Set.range FieldEntry.field := by
    intro entry hentry
    obtain ⟨field, rfl⟩ := h entry hentry
    exact ⟨field, rfl⟩
  obtain ⟨fields, hfields⟩ : (s.get r).fields ∈ Set.range (List.map FieldEntry.field) :=
    Set.range_list_map FieldEntry.field ▸ hrange
  exact ⟨fields, hfields.symm⟩

theorem Appearance.loaded (hj : Shapes.appearance.isNormal j = true) (hs : s.Closed) :
    s.Loaded Shapes.appearance (load j s).2 [.appearance (load j s).1] [j] := by
  obtain ⟨sets, fields, hload, hsets, hfields, hreads⟩ := load_of_isNormal hj
  have hmade := Store.Loaded.mapM Entity.formSet
    (fun x hx s hs ↦ FormSet.loaded (hsets x hx) hs) hs
  have hmore := Store.Loaded.mapM Entity.formField
    (fun x hx s hs ↦ FormField.loaded (hfields x hx) hs) hmade.closed
  rw [hload, bind_apply, bind_apply]
  refine .alloc (hmade.toForest.append hmore.toForest) _
    (fun u r hget ↦ ⟨parts_eq hget, ?_, ?_⟩) fun u r hget hkept ↦ ?_
  · change ∀ entry ∈ (u.get r).fields, _
    rw [hget]
    simp
  · change (u.get r).fields.filterMap _ = _
    rw [hget]
    simp [FieldEntry.loose?]
  · change Shape.Reads _ (u.appearanceContent r) _
    rw [Store.appearanceContent, hget]
    refine hreads _ _ ?_ ?_
    · refine Shape.reads_map (hmade.reads_of_kept fun e he ↦ ?_)
      exact (hmade.kept hmore.toForest he).trans (hkept e (List.mem_append_left _ he))
    · rw [List.map_map]
      exact Shape.reads_map (hmore.reads_of_kept fun e he ↦ hkept e (List.mem_append_right _ he))

theorem Form.load_of_isNormal (hj : Shapes.form.isNormal j = true) :
    ∃ id shown appearing,
      load j = Visibility.load shown >>= (fun visibility ↦ Appearance.load appearing >>=
        fun appearance ↦ alloc { id, visibility, appearance }) ∧
      Shapes.visibility.isNormal shown = true ∧ Shapes.appearance.isNormal appearing = true ∧
      ∀ c d, Shapes.visibility.Reads c shown → Shapes.appearance.Reads d appearing →
        Shapes.form.Reads
          (.record .form
            [("id", .ofText? id), ("form_field_visibility", c), ("form_appearance", d)]) j := by
  obtain ⟨entries, rfl, h⟩ := Shape.isNormal_record_iff.1 hj
  obtain ⟨id, entries, rfl, hid, h⟩ := Fields.isNormal_cons_iff.1 h
  obtain ⟨shown, entries, rfl, hshown, h⟩ := Fields.isNormal_cons_iff.1 h
  obtain ⟨appearing, entries, rfl, happearing, h⟩ := Fields.isNormal_cons_iff.1 h
  obtain rfl := Fields.isNormal_nil_iff.1 h
  obtain ⟨id, rfl⟩ := Shape.isNormal_nullable_text_iff.1 hid
  refine ⟨id, shown, appearing, by cases id <;> rfl, hshown, happearing, fun c d hc hd ↦ ?_⟩
  exact ⟨.form, _, _, rfl, rfl, rfl, Fields.reads_cons (Shape.reads_ofText? id)
    (Fields.reads_cons hc (Fields.reads_cons hd Fields.reads_nil))⟩

theorem Form.loaded (hj : Shapes.form.isNormal j = true) (hs : s.Closed) :
    s.Loaded Shapes.form (load j s).2 [.form (load j s).1] [j] := by
  obtain ⟨id, shown, appearing, hload, hshown, happearing, hreads⟩ := load_of_isNormal hj
  have hmade := Visibility.loaded hshown hs
  have hmore := Appearance.loaded happearing hmade.closed
  rw [hload, bind_apply, bind_apply]
  refine .alloc (hmade.toForest.append hmore.toForest) _
    (fun u r hget ↦ ⟨?_, trivial, rfl⟩) fun u r hget hkept ↦ ?_
  · change [Entity.visibility (u.get r).visibility, .appearance (u.get r).appearance] = _
    rw [hget]
    rfl
  · change Shape.Reads _ (u.formContent r) _
    rw [Store.formContent, hget]
    refine hreads _ _ (hmade.read_of_kept fun e he ↦ ?_)
      (hmore.read_of_kept fun e he ↦ hkept e (List.mem_append_right _ he))
    exact (hmade.kept hmore.toForest he).trans (hkept e (List.mem_append_left _ he))

theorem Configuration.load_of_isNormal (hj : Shapes.configuration.isNormal j = true) :
    ∃ evaluator condition forms,
      load j = forms.mapM Form.load >>= (fun refs ↦
        alloc { evaluator, condition, forms := refs }) ∧
      (∀ x ∈ forms, Shapes.form.isNormal x = true) ∧
      ∀ c, (Shape.list Shapes.form).Reads c (.array forms) →
        Shapes.configuration.Reads
          (.record .configuration
            [("evaluator", .ofText? evaluator), ("condition", .ofText? condition),
              ("forms", c)]) j := by
  obtain ⟨entries, rfl, h⟩ := Shape.isNormal_record_iff.1 hj
  obtain ⟨evaluator, entries, rfl, hevaluator, h⟩ := Fields.isNormal_cons_iff.1 h
  obtain ⟨condition, entries, rfl, hcondition, h⟩ := Fields.isNormal_cons_iff.1 h
  obtain ⟨forms, entries, rfl, hforms, h⟩ := Fields.isNormal_cons_iff.1 h
  obtain rfl := Fields.isNormal_nil_iff.1 h
  obtain ⟨evaluator, rfl⟩ := Shape.isNormal_nullable_text_iff.1 hevaluator
  obtain ⟨condition, rfl⟩ := Shape.isNormal_nullable_text_iff.1 hcondition
  obtain ⟨forms, rfl, hitems⟩ := Shape.isNormal_list_iff.1 hforms
  refine ⟨evaluator, condition, forms, ?_, hitems, fun c hc ↦ ?_⟩
  · cases evaluator <;> cases condition <;> rfl
  · exact ⟨.configuration, _, _, rfl, rfl, rfl, Fields.reads_cons (Shape.reads_ofText? evaluator)
      (Fields.reads_cons (Shape.reads_ofText? condition) (Fields.reads_cons hc Fields.reads_nil))⟩

theorem Configuration.loaded (hj : Shapes.configuration.isNormal j = true) (hs : s.Closed) :
    s.Loaded Shapes.configuration (load j s).2 [.configuration (load j s).1] [j] := by
  obtain ⟨evaluator, condition, forms, hload, hforms, hreads⟩ := load_of_isNormal hj
  have hmade := Store.Loaded.mapM Entity.form
    (fun x hx s hs ↦ Form.loaded (hforms x hx) hs) hs
  rw [hload, bind_apply]
  refine .alloc hmade.toForest _ (fun u r hget ↦ ⟨?_, trivial, rfl⟩) fun u r hget hkept ↦ ?_
  · change (u.get r).forms.map _ = _
    rw [hget]
  · change Shape.Reads _ (u.configurationContent r) _
    rw [Store.configurationContent, hget]
    exact hreads _ (Shape.reads_map (hmade.reads_of_kept hkept))

theorem FormModule.load_of_isNormal (hj : Shapes.formModule.isNormal j = true) :
    ∃ id configurations,
      load j = configurations.mapM Configuration.load >>= (fun refs ↦
        alloc { id, configurations := refs }) ∧
      (∀ x ∈ configurations, Shapes.configuration.isNormal x = true) ∧
      ∀ c, (Shape.list Shapes.configuration).Reads c (.array configurations) →
        Shapes.formModule.Reads
          (.record .formModule [("id", .ofText? id), ("configurations", c)]) j := by
  obtain ⟨entries, rfl, h⟩ := Shape.isNormal_record_iff.1 hj
  obtain ⟨id, entries, rfl, hid, h⟩ := Fields.isNormal_cons_iff.1 h
  obtain ⟨configurations, entries, rfl, hconfigurations, h⟩ := Fields.isNormal_cons_iff.1 h
  obtain rfl := Fields.isNormal_nil_iff.1 h
  obtain ⟨id, rfl⟩ := Shape.isNormal_nullable_text_iff.1 hid
  obtain ⟨configurations, rfl, hitems⟩ := Shape.isNormal_list_iff.1 hconfigurations
  refine ⟨id, configurations, by cases id <;> rfl, hitems, fun c hc ↦ ?_⟩
  exact ⟨.formModule, _, _, rfl, rfl, rfl, Fields.reads_cons (Shape.reads_ofText? id)
    (Fields.reads_cons hc Fields.reads_nil)⟩

theorem FormModule.loaded (hj : Shapes.formModule.isNormal j = true) (hs : s.Closed) :
    s.Loaded Shapes.formModule (load j s).2 [.formModule (load j s).1] [j] := by
  obtain ⟨id, configurations, hload, hconfigurations, hreads⟩ := load_of_isNormal hj
  have hmade := Store.Loaded.mapM Entity.configuration
    (fun x hx s hs ↦ Configuration.loaded (hconfigurations x hx) hs) hs
  rw [hload, bind_apply]
  refine .alloc hmade.toForest _ (fun u r hget ↦ ⟨?_, trivial, rfl⟩) fun u r hget hkept ↦ ?_
  · change (u.get r).configurations.map _ = _
    rw [hget]
  · change Shape.Reads _ (u.formModuleContent r) _
    rw [Store.formModuleContent, hget]
    exact hreads _ (Shape.reads_map (hmade.reads_of_kept hkept))

end

/-! ## Trees read as documents -/

namespace Store

variable (s : Store)

/-- A list reads as a document if each of its members does. -/
theorem exists_reads_list {α : Type} {shape : Shape} {content : α → Content} {refs : List α}
    (h : ∀ r ∈ refs, ∃ j, shape.Reads (content r) j) :
    ∃ j, (Shape.list shape).Reads (.list (refs.map content)) j := by
  obtain ⟨js, hjs⟩ := @exists_reads_of_forall shape (refs.map content) (List.forall_mem_map.2 h)
  exact ⟨.array js, Shape.reads_list hjs⟩

theorem exists_reads_parameter (r : Ref ControlParameter) :
    ∃ j, Shapes.controlParameter.Reads (s.parameterContent r) j :=
  ⟨_, .controlParameter, _, _, rfl, rfl, rfl, Fields.reads_cons (Shape.reads_text _)
    (Fields.reads_cons (Shape.reads_text _) Fields.reads_nil)⟩

theorem exists_reads_control (r : Ref Control) :
    ∃ j, Shapes.control.Reads (s.controlContent r) j := by
  obtain ⟨j, hj⟩ := @exists_reads_list _ _ _ (s.get r).parameters fun p _ ↦
    s.exists_reads_parameter p
  exact ⟨_, .control, _, _, rfl, rfl, rfl, Fields.reads_cons (Shape.reads_ofText? _)
    (Fields.reads_cons hj Fields.reads_nil)⟩

theorem exists_reads_formSet (r : Ref FormSet) : ∃ j, Shapes.formSet.Reads (s.formSetContent r) j :=
  ⟨_, .formSet, _, _, rfl, rfl, rfl, Fields.reads_cons (Shape.reads_text _)
    (Fields.reads_cons (Shape.reads_ofText? _) (Fields.reads_cons (Shape.reads_ofText? _)
      (Fields.reads_cons (Shape.reads_ofText? _) (Fields.reads_cons (Shape.reads_ofText? _)
        Fields.reads_nil))))⟩

theorem exists_reads_formField (r : Ref FormField) :
    ∃ j, Shapes.formField.Reads (s.formFieldContent r) j := by
  suffices hcontrol : ∃ j, (Shape.nullable Shapes.control).Reads
      ((s.get r).control.elim (.plain .null) s.controlContent) j by
    obtain ⟨j, hj⟩ := hcontrol
    refine ⟨_, .formField, _, _, rfl, rfl, rfl, Fields.reads_cons (Shape.reads_ofText? _)
      (Fields.reads_cons (Shape.reads_ofText? _) (Fields.reads_cons (Shape.reads_ofText? _)
        (Fields.reads_cons (Shape.reads_ofBool? _) (Fields.reads_cons (Shape.reads_ofBool? _)
          (Fields.reads_cons (Shape.reads_ofText? _)
            (Fields.reads_cons (j := j) ?_ Fields.reads_nil))))))⟩
    cases hc : (s.get r).control <;> rwa [hc] at hj
  cases (s.get r).control with
  | none => exact ⟨.null, .inl ⟨rfl, rfl⟩⟩
  | some control =>
    obtain ⟨j, hj⟩ := s.exists_reads_control control
    refine ⟨j, .inr ⟨?_, hj⟩⟩
    rintro rfl
    exact absurd hj.isNormal Bool.false_ne_true

variable {s}

theorem exists_reads_visibility {r : Ref Visibility} (h : (Entity.visibility r).IsPlain s) :
    ∃ j, Shapes.visibility.Reads (s.visibilityContent r) j :=
  ⟨_, .visibility, _, _, rfl, rfl, rfl,
    Fields.reads_cons (Shape.reads_texts fun j hj ↦ h j (List.mem_append_left _ hj))
      (Fields.reads_cons (Shape.reads_texts fun j hj ↦ h j (List.mem_append_right _ hj))
        Fields.reads_nil)⟩

theorem exists_reads_appearance {r : Ref Appearance} (h : (Entity.appearance r).IsPlain s) :
    ∃ j, Shapes.appearance.Reads (s.appearanceContent r) j := by
  obtain ⟨sets, hsets⟩ := @exists_reads_list _ _ _ (s.get r).sets fun x _ ↦
    s.exists_reads_formSet x
  have hfields : ∀ entry ∈ (s.get r).fields,
      ∃ j, Shapes.formField.Reads (s.fieldEntryContent entry) j := by
    intro entry hentry
    obtain ⟨field, rfl⟩ := h entry hentry
    exact s.exists_reads_formField field
  obtain ⟨fields, hfields⟩ := exists_reads_list hfields
  exact ⟨_, .appearance, _, _, rfl, rfl, rfl, Fields.reads_cons hsets
    (Fields.reads_cons hfields Fields.reads_nil)⟩

theorem exists_reads_form {r : Ref Form}
    (h : ∀ part ∈ (Entity.form r).parts s, part.IsPlain s) :
    ∃ j, Shapes.form.Reads (s.formContent r) j := by
  obtain ⟨shown, hshown⟩ := exists_reads_visibility
    (h (.visibility (s.get r).visibility) List.mem_cons_self)
  obtain ⟨appearing, happearing⟩ := exists_reads_appearance
    (h (.appearance (s.get r).appearance) (List.mem_cons_of_mem _ List.mem_cons_self))
  exact ⟨_, .form, _, _, rfl, rfl, rfl, Fields.reads_cons (Shape.reads_ofText? _)
    (Fields.reads_cons hshown (Fields.reads_cons happearing Fields.reads_nil))⟩

theorem exists_reads_configuration {r : Ref Configuration}
    (h : ∀ x, (Entity.configuration r).Reaches s x → x.IsPlain s) :
    ∃ j, Shapes.configuration.Reads (s.configurationContent r) j := by
  obtain ⟨forms, hforms⟩ := @exists_reads_list _ _ _ (s.get r).forms fun x hx ↦
    exists_reads_form fun part hpart ↦
      h part ((Entity.Reaches.of_part (List.mem_map_of_mem hx)).tail hpart)
  exact ⟨_, .configuration, _, _, rfl, rfl, rfl, Fields.reads_cons (Shape.reads_ofText? _)
    (Fields.reads_cons (Shape.reads_ofText? _) (Fields.reads_cons hforms Fields.reads_nil))⟩

/-- A form module of which all records are as they should be reads as a document. -/
theorem exists_reads_formModule {r : Ref FormModule}
    (h : ∀ x, (Entity.formModule r).Reaches s x → x.IsPlain s) :
    ∃ j, Shapes.formModule.Reads (s.formModuleContent r) j := by
  obtain ⟨configurations, hconfigurations⟩ :=
    @exists_reads_list _ _ _ (s.get r).configurations fun x hx ↦
      exists_reads_configuration fun y hy ↦
        h y ((Entity.Reaches.of_part (List.mem_map_of_mem hx)).trans hy)
  exact ⟨_, .formModule, _, _, rfl, rfl, rfl, Fields.reads_cons (Shape.reads_ofText? _)
    (Fields.reads_cons hconfigurations Fields.reads_nil)⟩

end Store

end WorkflowArtifacts
