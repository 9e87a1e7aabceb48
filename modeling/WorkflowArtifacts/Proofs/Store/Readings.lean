import WorkflowArtifacts.Proofs.Store.Gaps

/-!
# What is read of a record

What a record amounts to does not tell where it lies, nor what else there is. So if a record and all
that it leads to have counterparts in another store, possibly moved over gaps, then the record and
its counterpart have the same content, but for the items in the places of fields, which are moved
like all others (`Store.Mirrors.content_eq`). And they are written alike, in every style
(`Store.Mirrors.write_entity_eq`), because all that a way through open places is asked is whether an
item lies on it, and to move items keeps different records different.

There are two ways for a record to have a counterpart. Between stores that differ by gaps every
record has one (`Store.Gapped.write_eq`). And wherever a record and all that it leads to are still
the same, they are their own counterparts (`Entity.Kept.write_eq`).
-/

namespace WorkflowArtifacts

open Schema (Style)

/-! ## Contents with other entries -/

namespace Content

variable (f : Item → Item)

mutual

/-- The content with other items in the places of fields. -/
def mapEntry : Content → Content
  | .plain j => .plain j
  | .foreign above j => .foreign above j
  | .entries es => .entries es
  | .list xs => .list (mapItems xs)
  | .record c fields => .record c (mapFields fields)
  | .entry item => .entry (f item)

/-- The members of a list with other items in the places of fields. -/
def mapItems : List Content → List Content
  | [] => []
  | x :: xs => x.mapEntry :: mapItems xs

/-- The fields of a record with other items in the places of fields. -/
def mapFields : List (String × Content) → List (String × Content)
  | [] => []
  | (name, x) :: rest => (name, x.mapEntry) :: mapFields rest

end

attribute [simp] mapEntry mapFields

@[simp] theorem mapEntry_ofText? (s : Option String) : (ofText? s).mapEntry f = ofText? s := rfl

@[simp] theorem mapEntry_ofText (s : String) : (ofText s).mapEntry f = ofText s := rfl

@[simp] theorem mapEntry_ofBool? (b : Option Bool) : (ofBool? b).mapEntry f = ofBool? b := rfl

@[simp] theorem mapEntry_ofAny (above : Nat) (j : Json) :
    (ofAny above j).mapEntry f = ofAny above j := by
  rw [ofAny]
  split <;> rfl

@[simp] theorem mapItems_eq_map (xs : List Content) : mapItems f xs = xs.map (mapEntry f) := by
  induction xs with
  | nil => rfl
  | cons x xs ih => rw [mapItems, ih, List.map_cons]

theorem mapFields_filter (p : String → Bool) (fields : List (String × Content)) :
    (mapFields f fields).filter (p ·.1) = mapFields f (fields.filter (p ·.1)) := by
  induction fields with
  | nil => rfl
  | cons part rest ih =>
    rw [mapFields, List.filter_cons, List.filter_cons, ih]
    split
    · rfl
    · rfl

theorem fields_mapEntry (content : Content) :
    (content.mapEntry f).fields = mapFields f content.fields := by
  cases content <;> rfl

theorem isAbsent_mapEntry (content : Content) :
    (content.mapEntry f).isAbsent = content.isAbsent := by
  cases content <;> rfl

variable {style : Style} {room : Nat} {writeEntry writeEntry' : Item → Except Fault Json}

mutual

theorem write_mapEntry (h : ∀ item, writeEntry' (f item) = writeEntry item) :
    ∀ content : Content,
      (content.mapEntry f).write style room writeEntry' = content.write style room writeEntry
  | .plain _ | .foreign _ _ | .entries _ => rfl
  | .list xs => congrArg (Except.map Json.array) (writeItems_mapItems h xs)
  | .record c fields => congrArg (Except.map Json.object) (writeFields_mapFields h c fields)
  | .entry item => h item

theorem writeItems_mapItems (h : ∀ item, writeEntry' (f item) = writeEntry item) :
    ∀ xs : List Content,
      writeItems style room writeEntry' (mapItems f xs) = writeItems style room writeEntry xs
  | [] => rfl
  | x :: xs => by
    rw [mapItems, writeItems, writeItems, write_mapEntry h x, writeItems_mapItems h xs]

theorem writeFields_mapFields (h : ∀ item, writeEntry' (f item) = writeEntry item)
    (c : RecordClass) :
    ∀ fields : List (String × Content),
      writeFields style room writeEntry' c (mapFields f fields)
        = writeFields style room writeEntry c fields
  | [] => rfl
  | (name, x) :: rest => by
    rw [mapFields, writeFields, writeFields, write_mapEntry h x, writeFields_mapFields h c rest,
      isAbsent_mapEntry]

end

end Content

/-! ## What is moved is still told apart -/

namespace Gaps

variable (g : Gaps)

theorem entity_injective : Function.Injective g.entity := by
  intro a b h
  cases a <;> cases b <;> simp only [entity, reduceCtorEq, Entity.modelNamespace.injEq,
    Entity.contentModel.injEq, Entity.formModule.injEq] at h <;>
    first | exact h | exact congrArg _ (Gap.shift_injective _ h)

theorem listing_injective : Function.Injective g.listing := by
  intro a b h
  cases a <;> cases b <;> simp only [listing, reduceCtorEq, Listing.namespaces.injEq,
    Listing.imports.injEq, Listing.configurations.injEq] at h <;>
    first | exact h | exact congrArg _ (Gap.shift_injective _ h)

theorem isSame_item (a b : Item) : (g.item a).isSame (g.item b) = a.isSame b := by
  cases a <;> cases b <;>
    simp [Item.isSame, item, g.entity_injective.eq_iff, g.listing_injective.eq_iff]

theorem any_isSame_item (way : List Item) (item : Item) :
    (way.map g.item).any (g.item item).isSame = way.any item.isSame := by
  rw [List.any_map]
  exact congrArg way.any (funext fun other ↦ g.isSame_item item other)

end Gaps

/-! ## Counterparts -/

/-- Whether a record has a counterpart in another store, where gaps move references. -/
def Entity.Moved (g : Gaps) (s t : Store) : Entity → Prop
  | .modelNamespace r => t.get (g.namespaces.shift r) = s.get r
  | .contentModel r => t.get (g.contentModels.shift r) = g.contentModel (s.get r)
  | .formModule r => t.get (g.formModules.shift r) = s.get r
  | .appearance r =>
    t.get r = s.get r ∧
      ∀ l ∈ (Entity.appearance r).looseRefs s, t.looseItem l = g.item (s.looseItem l)
  | e => e.Same s t

/-- Whether an item leads only to records of a certain kind. -/
def Item.Within (K : Entity → Prop) (item : Item) : Prop := ∀ e ∈ item.entities, K e

/-- Whether all records of a certain kind have counterparts, and so has what they lead to. -/
structure Store.Mirrors (g : Gaps) (K : Entity → Prop) (s t : Store) : Prop where
  /-- They have counterparts. -/
  moved : ∀ e, K e → e.Moved g s t
  /-- Their parts are of the same kind. -/
  parts : ∀ e, K e → ∀ part ∈ e.parts s, K part

/-- No gaps. -/
def Gaps.none : Gaps := ⟨⟨0, 0⟩, ⟨0, 0⟩, ⟨0, 0⟩⟩

namespace Gaps

theorem shift_zero {α : Type} (r : Ref α) : Gap.shift ⟨0, 0⟩ r = r := rfl

@[simp] theorem entity_none (e : Entity) : none.entity e = e := by
  cases e <;> rfl

@[simp] theorem item_none (item : Item) : none.item item = item := by
  cases item with
  | entity e => exact congrArg Item.entity (entity_none e)
  | listing l => cases l <;> rfl
  | group es =>
    exact congrArg Item.group ((List.map_congr_left fun e _ ↦ entity_none e).trans es.map_id)
  | _ => rfl

end Gaps

theorem Entity.moved_none_iff {s t : Store} {e : Entity} : e.Moved .none s t ↔ e.Same s t := by
  cases e with
  | contentModel r =>
    have hshift : (Gap.shift ⟨0, 0⟩ : Ref ModelNamespace → Ref ModelNamespace) = id :=
      funext Gaps.shift_zero
    have hmodel : Gaps.none.contentModel (s.get r) = s.get r := by
      simp [Gaps.contentModel, Gaps.none, hshift]
    rw [Moved, Same, hmodel]
    rfl
  | appearance r => simp [Moved, Same]
  | _ => exact Iff.rfl

/-- What is kept is its own counterpart. -/
theorem Entity.Kept.mirrors {s t : Store} {e : Entity} (h : e.Kept s t) :
    s.Mirrors .none (e.Reaches s) t where
  moved x hx := Entity.moved_none_iff.2 (h x hx)
  parts _ hx _ hpart := hx.tail hpart

/-- In a store with gaps everything has its counterpart. -/
theorem Store.Gapped.mirrors {g : Gaps} {s t : Store} (h : s.Gapped g t) :
    s.Mirrors g (fun _ ↦ True) t where
  moved e _ := by
    cases e with
    | modelNamespace r => exact h.get_namespace r
    | contentModel r => exact h.get_contentModel r
    | formModule r => exact h.get_formModule r
    | appearance r => exact ⟨h.get_eq r, fun l _ ↦ h.looseItem_eq l⟩
    | settings value => trivial
    | _ => exact h.get_eq _
  parts _ _ _ _ := trivial

namespace Store.Mirrors

variable {g : Gaps} {K : Entity → Prop} {s t : Store}

/-! ## Contents

In each of the following, `f` is any function that moves the items it is asked about. -/

section

variable {f : Item → Item} (h : s.Mirrors g K t)
include h

theorem elementContent_eq {r : Ref Element} (hr : K (.element r)) (above : Nat) :
    t.elementContent above r = (s.elementContent above r).mapEntry f := by
  have hget : t.get r = s.get r := h.moved _ hr
  rw [elementContent, elementContent, hget, Element.content]
  cases s.get r <;> simp [Element.ownContents]

theorem processContent_eq {r : Ref Process} (hr : K (.process r)) :
    t.processContent r = (s.processContent r).mapEntry f := by
  have hget : t.get r = s.get r := h.moved _ hr
  have hparts := h.parts _ hr
  rw [processContent, processContent, hget]
  rw [Entity.parts] at hparts
  cases helements : (s.get r).elements with
  | none => simp
  | some elements =>
    rw [helements] at hparts
    have hmap : elements.map (t.elementContent 1)
        = elements.map fun e ↦ (s.elementContent 1 e).mapEntry f :=
      List.map_congr_left fun e he ↦ h.elementContent_eq (hparts _ (List.mem_map_of_mem he)) 1
    simp [hmap, Function.comp_def]

theorem namespaceContent_eq {r : Ref ModelNamespace} (hr : K (.modelNamespace r)) :
    t.namespaceContent (g.namespaces.shift r) = (s.namespaceContent r).mapEntry f := by
  have hget : t.get (g.namespaces.shift r) = s.get r := h.moved _ hr
  rw [namespaceContent, namespaceContent, hget]
  simp [ModelNamespace.content]

theorem contentModelContent_eq {r : Ref ContentModel} (hr : K (.contentModel r)) :
    t.contentModelContent (g.contentModels.shift r) = (s.contentModelContent r).mapEntry f := by
  have hget : t.get (g.contentModels.shift r) = g.contentModel (s.get r) := h.moved _ hr
  have hmap (refs : List (Ref ModelNamespace))
      (hrefs : ∀ n ∈ refs, n ∈ (s.get r).namespaces ++ (s.get r).imports) :
      refs.map (fun n ↦ t.namespaceContent (g.namespaces.shift n))
        = refs.map fun n ↦ (s.namespaceContent n).mapEntry f :=
    List.map_congr_left fun n hn ↦
      h.namespaceContent_eq (h.parts _ hr _ (List.mem_map_of_mem (hrefs n hn)))
  rw [contentModelContent, contentModelContent, hget]
  simp [Gaps.contentModel, Function.comp_def, hmap _ fun n hn ↦ List.mem_append_left _ hn,
    hmap _ fun n hn ↦ List.mem_append_right _ hn]

theorem parameterContent_eq {r : Ref ControlParameter} (hr : K (.controlParameter r)) :
    t.parameterContent r = (s.parameterContent r).mapEntry f := by
  have hget : t.get r = s.get r := h.moved _ hr
  rw [parameterContent, parameterContent, hget]
  simp [ControlParameter.content]

theorem controlContent_eq {r : Ref Control} (hr : K (.control r)) :
    t.controlContent r = (s.controlContent r).mapEntry f := by
  have hget : t.get r = s.get r := h.moved _ hr
  have hmap : (s.get r).parameters.map t.parameterContent
      = (s.get r).parameters.map fun p ↦ (s.parameterContent p).mapEntry f :=
    List.map_congr_left fun p hp ↦ h.parameterContent_eq (h.parts _ hr _ (List.mem_map_of_mem hp))
  rw [controlContent, controlContent, hget]
  simp [hmap, Function.comp_def]

theorem formSetContent_eq {r : Ref FormSet} (hr : K (.formSet r)) :
    t.formSetContent r = (s.formSetContent r).mapEntry f := by
  have hget : t.get r = s.get r := h.moved _ hr
  rw [formSetContent, formSetContent, hget]
  simp [FormSet.content]

theorem formFieldContent_eq {r : Ref FormField} (hr : K (.formField r)) :
    t.formFieldContent r = (s.formFieldContent r).mapEntry f := by
  have hget : t.get r = s.get r := h.moved _ hr
  have hparts := h.parts _ hr
  rw [formFieldContent, formFieldContent, hget]
  rw [Entity.parts] at hparts
  cases hcontrol : (s.get r).control with
  | none => simp
  | some control =>
    have hk : K (.control control) := hparts _ (by simp [hcontrol])
    simp [h.controlContent_eq hk (f := f)]

theorem visibilityContent_eq {r : Ref Visibility} (hr : K (.visibility r)) :
    t.visibilityContent r = (s.visibilityContent r).mapEntry f := by
  have hget : t.get r = s.get r := h.moved _ hr
  rw [visibilityContent, visibilityContent, hget]
  simp [Visibility.content, Function.comp_def]

theorem appearanceContent_eq (hf : ∀ item : Item, item.Within K → f item = g.item item)
    {r : Ref Appearance} (hr : K (.appearance r)) :
    t.appearanceContent r = (s.appearanceContent r).mapEntry f := by
  obtain ⟨hget, hloose⟩ : Entity.Moved g s t (.appearance r) := h.moved _ hr
  have hparts := h.parts _ hr
  rw [Entity.parts] at hparts
  have hsets : (s.get r).sets.map t.formSetContent
      = (s.get r).sets.map fun x ↦ (s.formSetContent x).mapEntry f :=
    List.map_congr_left fun x hx ↦ h.formSetContent_eq
      (hparts _ (List.mem_append_left _ (List.mem_map_of_mem hx)))
  have hfields : (s.get r).fields.map t.fieldEntryContent
      = (s.get r).fields.map fun x ↦ (s.fieldEntryContent x).mapEntry f := by
    refine List.map_congr_left fun entry hentry ↦ ?_
    have hentities : ∀ x ∈ entry.entities s, K x := fun x hx ↦
      hparts x (List.mem_append_right _ (List.mem_flatMap.2 ⟨entry, hentry, hx⟩))
    cases entry with
    | field x => exact h.formFieldContent_eq (hentities _ (List.mem_singleton_self _))
    | loose l =>
      have hl : l ∈ (Entity.appearance r).looseRefs s := List.mem_filterMap.2 ⟨_, hentry, rfl⟩
      exact congrArg Content.entry ((hloose l hl).trans (hf _ hentities).symm)
  rw [appearanceContent, appearanceContent, hget]
  simp [hsets, hfields, Function.comp_def]

theorem formContent_eq (hf : ∀ item : Item, item.Within K → f item = g.item item)
    {r : Ref Form} (hr : K (.form r)) :
    t.formContent r = (s.formContent r).mapEntry f := by
  have hget : t.get r = s.get r := h.moved _ hr
  have hvisibility : K (.visibility (s.get r).visibility) := h.parts _ hr _ (by simp [Entity.parts])
  have happearance : K (.appearance (s.get r).appearance) := h.parts _ hr _ (by simp [Entity.parts])
  rw [formContent, formContent, hget]
  simp [h.visibilityContent_eq hvisibility (f := f), h.appearanceContent_eq hf happearance]

theorem configurationContent_eq (hf : ∀ item : Item, item.Within K → f item = g.item item)
    {r : Ref Configuration} (hr : K (.configuration r)) :
    t.configurationContent r = (s.configurationContent r).mapEntry f := by
  have hget : t.get r = s.get r := h.moved _ hr
  have hmap : (s.get r).forms.map t.formContent
      = (s.get r).forms.map fun x ↦ (s.formContent x).mapEntry f :=
    List.map_congr_left fun x hx ↦ h.formContent_eq hf (h.parts _ hr _ (List.mem_map_of_mem hx))
  rw [configurationContent, configurationContent, hget]
  simp [hmap, Function.comp_def]

theorem formModuleContent_eq (hf : ∀ item : Item, item.Within K → f item = g.item item)
    {r : Ref FormModule} (hr : K (.formModule r)) :
    t.formModuleContent (g.formModules.shift r) = (s.formModuleContent r).mapEntry f := by
  have hget : t.get (g.formModules.shift r) = s.get r := h.moved _ hr
  have hmap : (s.get r).configurations.map t.configurationContent
      = (s.get r).configurations.map fun x ↦ (s.configurationContent x).mapEntry f :=
    List.map_congr_left fun x hx ↦
      h.configurationContent_eq hf (h.parts _ hr _ (List.mem_map_of_mem hx))
  rw [formModuleContent, formModuleContent, hget]
  simp [hmap, Function.comp_def]

/-- **Contents do not tell where records lie**: a record and its counterpart have the same content,
where the items in the places of fields are moved. -/
theorem content_eq (hf : ∀ item : Item, item.Within K → f item = g.item item) {e : Entity}
    (he : K e) : (g.entity e).content t = (e.content s).mapEntry f := by
  cases e with
  | definition r =>
    have hget : t.get r = s.get r := h.moved _ he
    change (t.get r).content = (s.get r).content.mapEntry f
    rw [hget]
    simp [Definition.content, Function.comp_def]
  | process r => exact h.processContent_eq he
  | element r => exact h.elementContent_eq he 0
  | modelNamespace r => exact h.namespaceContent_eq he
  | contentModel r => exact h.contentModelContent_eq he
  | controlParameter r => exact h.parameterContent_eq he
  | control r => exact h.controlContent_eq he
  | formSet r => exact h.formSetContent_eq he
  | formField r => exact h.formFieldContent_eq he
  | visibility r => exact h.visibilityContent_eq he
  | appearance r => exact h.appearanceContent_eq hf he
  | form r => exact h.formContent_eq hf he
  | configuration r => exact h.configurationContent_eq hf he
  | formModule r => exact h.formModuleContent_eq hf he
  | settings value => simp [Gaps.entity, Entity.content, Settings.content]

theorem asField_eq (hf : ∀ item : Item, item.Within K → f item = g.item item) {e : Entity}
    (he : K e) : (g.entity e).asField t = (e.asField s).mapEntry f := by
  rw [Entity.asField, Entity.asField, h.content_eq hf he, Content.fields_mapEntry,
    Content.mapFields_filter f fun name ↦ (RecordClass.formField.fields.find? name).isSome]
  rfl

end

/-! ## Writing -/

/-- Things that are written alike one by one are written alike in a row. -/
theorem mapM_map_eq {α : Type} {f : α → α} {write write' : α → Except Fault Json} {xs : List α}
    (h : ∀ x ∈ xs, write' (f x) = write x) : (xs.map f).mapM write' = xs.mapM write := by
  induction xs with
  | nil => rfl
  | cons x xs ih =>
    rw [List.map_cons, List.mapM_cons, List.mapM_cons, h x List.mem_cons_self,
      ih fun y hy ↦ h y (List.mem_cons_of_mem x hy)]

section

variable {style : Style} {room : Nat} {write write' : Item → Except Fault Json}

/-- A content is written like its counterpart if the items in it are, which lead nowhere else. -/
theorem write_eq_of_mapEntry {c c' : Content} (hc : c' = c.mapEntry g.item)
    (hself : ∀ f : Item → Item, (∀ item : Item, item.Within K → f item = item) → c = c.mapEntry f)
    (hwrite : ∀ item : Item, item.Within K → write' (g.item item) = write item) :
    c'.write style room write' = c.write style room write := by
  classical
  -- the items that the content does not hold may be taken for any item that leads nowhere
  let f (item : Item) : Item := if item.Within K then item else .data .null
  have hf : ∀ item : Item, (f item).Within K := by
    intro item
    by_cases hitem : item.Within K
    · rw [show f item = item from if_pos hitem]
      exact hitem
    · rw [show f item = .data .null from if_neg hitem]
      exact fun e he ↦ absurd he List.not_mem_nil
  have hcf : c = c.mapEntry f := hself f fun item hitem ↦ if_pos hitem
  have hany (w : Item → Except Fault Json) : c.write style room w = c.write style room (w ∘ f) :=
    calc c.write style room w
        = (c.mapEntry f).write style room w := by rw [← hcf]
      _ = c.write style room (w ∘ f) := Content.write_mapEntry f (fun _ ↦ rfl) c
  calc c'.write style room write'
      = (c.mapEntry g.item).write style room write' := by rw [hc]
    _ = c.write style room (write' ∘ g.item) := Content.write_mapEntry g.item (fun _ ↦ rfl) c
    _ = c.write style room ((write' ∘ g.item) ∘ f) := hany _
    _ = c.write style room (write ∘ f) :=
        congrArg (c.write style room) (funext fun item ↦ hwrite (f item) (hf item))
    _ = c.write style room write := (hany write).symm

end

section

variable {style : Style} (h : s.Mirrors g K t)
include h

/-- What has a counterpart is its own one where it is. -/
theorem self : s.Mirrors .none K s where
  moved e _ := Entity.moved_none_iff.2 (.refl s e)
  parts := h.parts

theorem write_content_eq {room : Nat} {write write' : Item → Except Fault Json} {e : Entity}
    (he : K e) (hwrite : ∀ item : Item, item.Within K → write' (g.item item) = write item) :
    ((g.entity e).content t).write style room write' = (e.content s).write style room write := by
  refine write_eq_of_mapEntry (h.content_eq (fun _ _ ↦ rfl) he) (fun f hf ↦ ?_) hwrite
  have hself := h.self.content_eq (f := f)
    (fun item hitem ↦ by rw [hf item hitem, Gaps.item_none]) he
  rwa [Gaps.entity_none] at hself

theorem writeAsField_eq {room : Nat} {writeOpen writeOpen' : Item → Except Fault Json}
    (hopen : ∀ item : Item, item.Within K → writeOpen' (g.item item) = writeOpen item)
    (item : Item) (hitem : item.Within K) :
    Item.writeAsField t style room writeOpen' (g.item item)
      = Item.writeAsField s style room writeOpen item := by
  cases item with
  | entity e =>
    have he : K e := hitem e (List.mem_singleton_self e)
    refine write_eq_of_mapEntry (h.asField_eq (fun _ _ ↦ rfl) he) (fun f hf ↦ ?_) hopen
    have hself := h.self.asField_eq (f := f)
      (fun item hitem ↦ by rw [hf item hitem, Gaps.item_none]) he
    rwa [Gaps.entity_none] at hself
  | tag kind => rfl
  | _ => exact hopen _ hitem

theorem within_members {l : Listing} (hl : K l.owner) {item : Item} (hitem : item ∈ l.members s) :
    item.Within K :=
  fun _ he ↦ h.parts _ hl _ (Listing.mem_parts_of_mem_members hitem he)

theorem members_eq {l : Listing} (hl : K l.owner) :
    (g.listing l).members t = (l.members s).map g.item := by
  have hmoved := h.moved _ hl
  cases l with
  | formFields r =>
    obtain ⟨hget, hloose⟩ := hmoved
    have hitem : ∀ entry ∈ (s.get r).fields, entry.item t = g.item (entry.item s) := by
      intro entry hentry
      cases entry with
      | field x => rfl
      | loose l => exact hloose l (List.mem_filterMap.2 ⟨_, hentry, rfl⟩)
    simp only [Gaps.listing, Listing.members, hget, List.map_map]
    exact List.map_congr_left hitem
  | formSets r =>
    simp [Gaps.listing, Listing.members, hmoved.1, Gaps.item, Gaps.entity, Function.comp_def]
  | namespaces r =>
    have hget : t.get (g.contentModels.shift r) = g.contentModel (s.get r) := hmoved
    simp [Gaps.listing, Listing.members, hget, Gaps.contentModel, Gaps.item, Gaps.entity,
      Function.comp_def]
  | imports r =>
    have hget : t.get (g.contentModels.shift r) = g.contentModel (s.get r) := hmoved
    simp [Gaps.listing, Listing.members, hget, Gaps.contentModel, Gaps.item, Gaps.entity,
      Function.comp_def]
  | configurations r =>
    have hget : t.get (g.formModules.shift r) = s.get r := hmoved
    simp [Gaps.listing, Listing.members, hget, Gaps.item, Gaps.entity, Function.comp_def]
  | _ r =>
    have hget : t.get r = s.get r := hmoved
    simp [Gaps.listing, Listing.members, hget, Gaps.item, Gaps.entity, Function.comp_def]

theorem writeOpen_eq (room : Nat) (way : List Item) (item : Item) (hitem : item.Within K) :
    Item.writeOpen t style room (way.map g.item) (g.item item)
      = Item.writeOpen s style room way item := by
  induction room generalizing way item with
  | zero => rw [Item.writeOpen, Item.writeOpen, g.any_isSame_item]
  | succ room ih =>
    -- whatever is inside is met on a way that is one item longer
    have hinside (other : Item) (hother : other.Within K) := ih (item :: way) other hother
    have hway := g.any_isSame_item way item
    rw [List.map_cons] at hinside
    cases item with
    | data j => rw [Gaps.item, Item.writeOpen, Item.writeOpen, ← hway, Gaps.item]
    | tag kind => rw [Gaps.item, Item.writeOpen, Item.writeOpen, ← hway, Gaps.item]
    | entity e =>
      have he : K e := hitem e (List.mem_singleton_self e)
      rw [Gaps.item] at hinside hway ⊢
      rw [Item.writeOpen, Item.writeOpen, hway,
        h.write_content_eq he (h.writeAsField_eq hinside)]
    | listing l =>
      have hl : K l.owner := hitem _ (List.mem_singleton_self _)
      rw [Gaps.item] at hinside hway ⊢
      rw [Item.writeOpen, Item.writeOpen, hway, h.members_eq hl,
        mapM_map_eq fun x hx ↦ hinside x (h.within_members hl hx)]
    | group es =>
      rw [Gaps.item] at hinside hway ⊢
      let write := Item.writeOpen s style room (.group es :: way) ∘ Item.entity
      have hmembers : ∀ e ∈ es, Item.writeOpen t style room _ (g.item (.entity e)) = write e :=
        fun e he ↦ hinside (.entity e) fun x hx ↦ hitem x (List.mem_singleton.1 hx ▸ he)
      rw [Item.writeOpen, Item.writeOpen, hway, mapM_map_eq hmembers]

/-- **Writing does not tell where records lie**: a record and its counterpart are written alike. -/
theorem write_entity_eq {e : Entity} (he : K e) : (g.entity e).write t style = e.write s style :=
  h.write_content_eq he fun item hitem ↦
    h.writeAsField_eq (fun other hother ↦ h.writeOpen_eq Schema.depthLimit [] other hother)
      item hitem

end

end Store.Mirrors

/-- An item and its counterpart in a store with gaps are written alike. -/
theorem Store.Gapped.write_eq {g : Gaps} {s t : Store} (h : s.Gapped g t) (style : Style)
    (item : Item) : (g.item item).write t style = item.write s style := by
  have hwithin (fuel : Nat) (item : Item) :
      (g.item item).writeWithin t style fuel = item.writeWithin s style fuel := by
    induction fuel generalizing item with
    | zero => rfl
    | succ fuel ih =>
      cases item with
      | data j => rfl
      | tag kind => rfl
      | entity e => exact h.mirrors.write_entity_eq trivial
      | listing l =>
        change Json.array <$> ((g.listing l).members t).mapM _ = Json.array <$> _
        rw [h.mirrors.members_eq trivial, Mirrors.mapM_map_eq fun item _ ↦ ih item]
      | group es =>
        exact congrArg (Except.map Json.array)
          (Mirrors.mapM_map_eq fun e _ ↦ h.mirrors.write_entity_eq trivial)
  have hsize : t.loose.size = s.loose.size := by
    rw [Table.size, h.loose, Array.size_map]
    rfl
  rw [Item.write, Item.write, hsize, hwithin]

namespace Entity.Kept

variable {s t : Store} {e : Entity}

/-- What is kept amounts to the same. -/
theorem content_eq (h : e.Kept s t) : e.content t = e.content s := by
  have hmoved := h.mirrors.content_eq (f := id)
    (fun item _ ↦ (Gaps.item_none item).symm) (.refl s e)
  have hself := (Kept.refl s e).mirrors.content_eq (f := id)
    (fun item _ ↦ (Gaps.item_none item).symm) (.refl s e)
  rw [Gaps.entity_none] at hmoved hself
  rw [hmoved, ← hself]

/-- What is kept is written as before. -/
theorem write_eq (h : e.Kept s t) (style : Style) : e.write t style = e.write s style := by
  have hwrite : (Gaps.none.entity e).write t style = e.write s style :=
    h.mirrors.write_entity_eq (.refl s e)
  rwa [Gaps.entity_none] at hwrite

end Entity.Kept

end WorkflowArtifacts
