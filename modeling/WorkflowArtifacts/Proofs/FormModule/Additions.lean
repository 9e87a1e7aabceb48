import WorkflowArtifacts.FormModule.Building
import WorkflowArtifacts.Proofs.FormModule.Loading

/-!
# Additions to form modules

What can be added to the parts of a form module, as data, and what one addition does. It may be
refused; then the store is as before. Otherwise a new part is made apart from everything else and
appended to one list of its owner (`Addition.perform_cases`). All that is said about additions rests
on this one description, so nothing else looks into how the single ones are performed.

Appending is described for all lists alike by `Store.Appended`: the list has one more member, the
owner has the new part among its parts, and nothing else is different.
-/

namespace WorkflowArtifacts

open Build Schema

/-! ## Additions -/

/-- An addition to a part of a form module. Its arguments may be anything, apart from what is
shown. -/
inductive Addition where
  /-- A configuration of a form module. -/
  | configuration (owner : Ref FormModule) (evaluator condition : Json)
  /-- A form of a configuration. -/
  | form (owner : Ref Configuration) (id : Json)
  /-- A set of an appearance. -/
  | formSet (owner : Ref Appearance) (id appearance labelId template : Json)
  /-- A field of an appearance. -/
  | field (owner : Ref Appearance) (id labelId set : Json)
  /-- A field of an appearance, made from a document on its own. -/
  | element (owner : Ref Appearance) (document : Json)
  /-- A parameter of a control. -/
  | parameter (owner : Ref Control) (name value : Json)
  /-- A field that a visibility shows. -/
  | shown (owner : Ref Visibility) (id : String)

namespace Addition

/-- The list that is added to. -/
def list : Addition → Listing
  | configuration owner _ _ => .configurations owner
  | form owner _ => .forms owner
  | formSet owner _ _ _ _ => .formSets owner
  | field owner _ _ _ => .formFields owner
  | element owner _ => .formFields owner
  | parameter owner _ _ => .parameters owner
  | shown owner _ => .shown owner

/-- The record that is added to. -/
def owner (a : Addition) : Entity := a.list.owner

/-- Makes the addition. -/
def perform : Addition → CheckedBuild Unit
  | configuration owner evaluator condition =>
    discard (FormModule.addConfiguration owner evaluator condition)
  | form owner id => discard (Configuration.addForm owner id)
  | formSet owner id appearance labelId template =>
    discard (Appearance.addSet owner id appearance labelId template)
  | field owner id labelId set => discard (Appearance.addField owner id labelId set)
  | element owner document => do
    let document ← validated .formField document
    let field ← FormField.load document
    Appearance.appendItem owner (.entity (.formField field))
  | parameter owner name value => discard (Control.addParameter owner name value)
  | shown owner id => Visibility.addShown owner (.text id)

end Addition

/-! ## Contents that are added to -/

/-- Whether a content is another one with one more member at the end of one list, and otherwise the
same. -/
inductive Content.AppendsOne : Content → Content → Prop
  /-- The list is the content itself. -/
  | here (cs : List Content) (c : Content) : AppendsOne (.list cs) (.list (cs ++ [c]))
  /-- The list is within one member of a list. -/
  | member (before after : List Content) {c d : Content} (h : AppendsOne c d) :
    AppendsOne (.list (before ++ c :: after)) (.list (before ++ d :: after))
  /-- The list is within one field of a record. -/
  | field (cls : RecordClass) (before after : List (String × Content)) (name : String)
    {c d : Content} (h : AppendsOne c d) :
    AppendsOne (.record cls (before ++ (name, c) :: after))
      (.record cls (before ++ (name, d) :: after))

/-! ## Appending -/

/-- Whether a store is another one where a list of a record has one more member, which may be a new
part of the record. -/
structure Store.Appended (l : Listing) (trees : List Entity) (item : Item) (s t : Store) :
    Prop extends s.Graft l.owner trees t where
  /-- There are the same records. -/
  exists_iff : ∀ e : Entity, e.Exists t ↔ e.Exists s
  /-- There are the same loose items. -/
  loose_eq : t.loose = s.loose
  /-- The owner lists the same of them. -/
  looseRefs : l.owner.looseRefs t = l.owner.looseRefs s
  /-- The list has one more member. -/
  members : l.members t = l.members s ++ [item]
  /-- Other lists of the owner are as before. -/
  others : ∀ other : Listing, other.owner = l.owner → other ≠ l → other.members t = other.members s
  /-- If nothing but the owner has changed, its content has one more member. -/
  content : (∀ part ∈ l.owner.parts s, part.content t = part.content s) →
    Content.AppendsOne (l.owner.content s) (l.owner.content t)

namespace Store

variable {s : Store}

theorem appended_configurations {owner : Ref FormModule} (h : s.Allocated owner)
    (part : Ref Configuration) :
    s.Appended (.configurations owner) [.configuration part] (.entity (.configuration part))
      (FormModule.append owner part s).2 := by
  let f (m : FormModule) : FormModule := { m with configurations := m.configurations ++ [part] }
  have hget : (s.modify owner f).get owner = f (s.get owner) := get_set_self h _
  refine ⟨.modify owner f ?_ id, fun e ↦ exists_modify, loose_modify s owner f, rfl, ?_, ?_, ?_⟩
  · change (((s.modify owner f).get owner).configurations.map Entity.configuration).Perm _
    rw [hget, List.map_append]
    exact List.perm_append_comm
  · change ((s.modify owner f).get owner).configurations.map _ = _
    rw [hget, List.map_append]
    rfl
  · intro other hother hne
    cases other <;> cases hother
    exact absurd rfl hne
  · intro hkept
    have hmap : (s.get owner).configurations.map (s.modify owner f).configurationContent
        = (s.get owner).configurations.map s.configurationContent :=
      List.map_congr_left fun x hx ↦ hkept (.configuration x) (List.mem_map_of_mem hx)
    change Content.AppendsOne (s.formModuleContent owner)
      ((s.modify owner f).formModuleContent owner)
    rw [formModuleContent, formModuleContent, hget, List.map_append, hmap]
    exact .field .formModule [_] [] "configurations" (.here _ _)

theorem appended_forms {owner : Ref Configuration} (h : s.Allocated owner) (part : Ref Form) :
    s.Appended (.forms owner) [.form part] (.entity (.form part))
      (Configuration.append owner part s).2 := by
  let f (c : Configuration) : Configuration := { c with forms := c.forms ++ [part] }
  have hget : (s.modify owner f).get owner = f (s.get owner) := get_set_self h _
  refine ⟨.modify owner f ?_ id, fun e ↦ exists_modify, loose_modify s owner f, rfl, ?_, ?_, ?_⟩
  · change (((s.modify owner f).get owner).forms.map Entity.form).Perm _
    rw [hget, List.map_append]
    exact List.perm_append_comm
  · change ((s.modify owner f).get owner).forms.map _ = _
    rw [hget, List.map_append]
    rfl
  · intro other hother hne
    cases other <;> cases hother
    exact absurd rfl hne
  · intro hkept
    have hmap : (s.get owner).forms.map (s.modify owner f).formContent
        = (s.get owner).forms.map s.formContent :=
      List.map_congr_left fun x hx ↦ hkept (.form x) (List.mem_map_of_mem hx)
    change Content.AppendsOne (s.configurationContent owner)
      ((s.modify owner f).configurationContent owner)
    rw [configurationContent, configurationContent, hget, List.map_append, hmap]
    exact .field .configuration [_, _] [] "forms" (.here _ _)

theorem appended_parameters {owner : Ref Control} (h : s.Allocated owner)
    (part : Ref ControlParameter) :
    s.Appended (.parameters owner) [.controlParameter part] (.entity (.controlParameter part))
      (Control.append owner part s).2 := by
  let f (c : Control) : Control := { c with parameters := c.parameters ++ [part] }
  have hget : (s.modify owner f).get owner = f (s.get owner) := get_set_self h _
  refine ⟨.modify owner f ?_ id, fun e ↦ exists_modify, loose_modify s owner f, rfl, ?_, ?_, ?_⟩
  · change (((s.modify owner f).get owner).parameters.map Entity.controlParameter).Perm _
    rw [hget, List.map_append]
    exact List.perm_append_comm
  · change ((s.modify owner f).get owner).parameters.map _ = _
    rw [hget, List.map_append]
    rfl
  · intro other hother hne
    cases other <;> cases hother
    exact absurd rfl hne
  · intro hkept
    have hmap : (s.get owner).parameters.map (s.modify owner f).parameterContent
        = (s.get owner).parameters.map s.parameterContent :=
      List.map_congr_left fun x hx ↦ hkept (.controlParameter x) (List.mem_map_of_mem hx)
    change Content.AppendsOne (s.controlContent owner) ((s.modify owner f).controlContent owner)
    rw [controlContent, controlContent, hget, List.map_append, hmap]
    exact .field .control [_] [] "control_parameters" (.here _ _)

theorem appended_shown {owner : Ref Visibility} (h : s.Allocated owner) {id : String}
    (hnew : ¬ (Json.text id).isAmong (s.get owner).shown) :
    s.Appended (.shown owner) [] (.data (.text id)) (Visibility.addShown owner (.text id) s).2 := by
  let f (v : Visibility) : Visibility := v.showing (.text id)
  have hget : (s.modify owner f).get owner
      = { s.get owner with shown := (s.get owner).shown ++ [.text id] } := by
    rw [modify, get_set_self h]
    exact if_neg hnew
  refine ⟨.modify owner f .rfl ?_, fun e ↦ exists_modify, loose_modify s owner f, rfl, ?_, ?_, ?_⟩
  · intro hplain j hj
    change j ∈ ((s.modify owner f).get owner).shown ++ ((s.modify owner f).get owner).hidden at hj
    rw [hget, List.append_assoc, List.mem_append, List.mem_append, List.mem_singleton] at hj
    rcases hj with hj | rfl | hj
    · exact hplain j (List.mem_append_left _ hj)
    · exact ⟨id, rfl⟩
    · exact hplain j (List.mem_append_right _ hj)
  · change ((s.modify owner f).get owner).shown.map _ = _
    rw [hget, List.map_append]
    rfl
  · intro other hother hne
    cases other <;> cases hother
    · exact absurd rfl hne
    · change ((s.modify owner f).get owner).hidden.map _ = _
      rw [hget]
      rfl
  · intro _
    change Content.AppendsOne (s.get owner).content ((s.modify owner f).get owner).content
    rw [hget, Visibility.content, Visibility.content, List.map_append]
    exact .field .visibility [] [_] "show_field_elements" (.here _ _)

section

variable {t : Store} (hloose : t.loose = s.loose)
include hloose

/-- What is listed as a field is the same item as long as the loose items are the same. -/
theorem fieldEntry_item_eq (entry : FieldEntry) : entry.item t = entry.item s := by
  cases entry with
  | field x => rfl
  | loose l => exact congrArg (Table.get · _) hloose

theorem fieldEntry_entities_eq (entry : FieldEntry) : entry.entities t = entry.entities s := by
  cases entry with
  | field x => rfl
  | loose l => exact congrArg (fun table : Table Item ↦ (table.get _).entities) hloose

/-- What is listed as a field amounts to the same if the fields do. -/
theorem map_fieldEntryContent {owner : Ref Appearance}
    (hkept : ∀ part ∈ (Entity.appearance owner).parts s, part.content t = part.content s) :
    (s.get owner).fields.map t.fieldEntryContent
      = (s.get owner).fields.map s.fieldEntryContent := by
  refine List.map_congr_left fun entry hentry ↦ ?_
  cases entry with
  | field x =>
    exact hkept (.formField x) (List.mem_append_right _
      (List.mem_flatMap.2 ⟨_, hentry, List.mem_singleton_self _⟩))
  | loose l => exact congrArg Content.entry (fieldEntry_item_eq hloose (.loose l))

end

theorem appended_formSets {owner : Ref Appearance} (h : s.Allocated owner) (part : Ref FormSet) :
    s.Appended (.formSets owner) [.formSet part] (.entity (.formSet part))
      (Appearance.appendSet owner part s).2 := by
  let f (a : Appearance) : Appearance := { a with sets := a.sets ++ [part] }
  have hget : (s.modify owner f).get owner = f (s.get owner) := get_set_self h _
  have hloose := loose_modify s owner f
  refine ⟨.modify owner f ?_ fun hplain ↦ ?_, fun e ↦ exists_modify, hloose, ?_, ?_, ?_, ?_⟩
  · change ((Entity.appearance owner).parts (s.modify owner f)).Perm
      ([.formSet part] ++ (Entity.appearance owner).parts s)
    rw [Entity.parts, Entity.parts, hget, List.map_append, funext (fieldEntry_entities_eq hloose),
      List.append_assoc]
    exact List.perm_middle
  · change ∀ entry ∈ ((s.modify owner f).get owner).fields, _
    rw [hget]
    exact hplain
  · change ((s.modify owner f).get owner).fields.filterMap _ = _
    rw [hget]
    rfl
  · change ((s.modify owner f).get owner).sets.map _ = _
    rw [hget, List.map_append]
    rfl
  · intro other hother hne
    cases other <;> cases hother
    · exact absurd rfl hne
    · change ((s.modify owner f).get owner).fields.map (·.item (s.modify owner f)) = _
      rw [hget, funext (fieldEntry_item_eq hloose)]
      rfl
  · intro hkept
    have hmap : (s.get owner).sets.map (s.modify owner f).formSetContent
        = (s.get owner).sets.map s.formSetContent :=
      List.map_congr_left fun x hx ↦
        hkept (.formSet x) (List.mem_append_left _ (List.mem_map_of_mem hx))
    change Content.AppendsOne (s.appearanceContent owner)
      ((s.modify owner f).appearanceContent owner)
    rw [appearanceContent, appearanceContent, hget, List.map_append, hmap,
      map_fieldEntryContent hloose hkept]
    exact .field .appearance [] [_] "form_sets" (.here _ _)

theorem appended_formFields {owner : Ref Appearance} (h : s.Allocated owner)
    (part : Ref FormField) :
    s.Appended (.formFields owner) [.formField part] (.entity (.formField part))
      (Appearance.appendField owner part s).2 := by
  let f (a : Appearance) : Appearance := { a with fields := a.fields ++ [.field part] }
  have hget : (s.modify owner f).get owner = f (s.get owner) := get_set_self h _
  have hloose := loose_modify s owner f
  refine ⟨.modify owner f ?_ fun hplain ↦ ?_, fun e ↦ exists_modify, hloose, ?_, ?_, ?_, ?_⟩
  · change ((Entity.appearance owner).parts (s.modify owner f)).Perm
      ([.formField part] ++ (Entity.appearance owner).parts s)
    rw [Entity.parts, Entity.parts, hget, funext (fieldEntry_entities_eq hloose),
      List.flatMap_append, ← List.append_assoc]
    exact List.perm_append_comm
  · change ∀ entry ∈ ((s.modify owner f).get owner).fields, _
    rw [hget]
    intro entry hentry
    rcases List.mem_append.1 hentry with hold | hnew
    · exact hplain entry hold
    · exact ⟨part, List.mem_singleton.1 hnew⟩
  · change ((s.modify owner f).get owner).fields.filterMap _ = _
    rw [hget, List.filterMap_append]
    exact List.append_nil _
  · change ((s.modify owner f).get owner).fields.map (·.item (s.modify owner f)) = _
    rw [hget, funext (fieldEntry_item_eq hloose), List.map_append]
    rfl
  · intro other hother hne
    cases other <;> cases hother
    · change ((s.modify owner f).get owner).sets.map _ = _
      rw [hget]
      rfl
    · exact absurd rfl hne
  · intro hkept
    have hmap : (s.get owner).sets.map (s.modify owner f).formSetContent
        = (s.get owner).sets.map s.formSetContent :=
      List.map_congr_left fun x hx ↦
        hkept (.formSet x) (List.mem_append_left _ (List.mem_map_of_mem hx))
    change Content.AppendsOne (s.appearanceContent owner)
      ((s.modify owner f).appearanceContent owner)
    rw [appearanceContent, appearanceContent, hget, List.map_append, hmap,
      map_fieldEntryContent hloose hkept]
    exact .field .appearance [_] [] "form_fields" (.here _ _)

end Store

/-! ## What an addition does -/

namespace Addition

variable {s : Store}

theorem run_discard {α : Type} (action : CheckedBuild α) (s : Store) :
    (discard action).run s = match action.run s with
      | (.ok _, t) => (.ok (), t)
      | (.error fault, t) => (.error fault, t) := by
  rw [ExceptT.run, ExceptT.run]
  change (ExceptT.map _ action) s = _
  rcases h : action s with ⟨fault | a, t⟩ <;>
    simp only [ExceptT.map, ExceptT.mk, bind, StateT.bind, h] <;> rfl

/-- What an addition that makes a part does: it makes the part from its document, if that is
accepted, and appends it to its list. -/
def MakesPart {β : Type} (a : Addition) (cls : RecordClass) (load : Json → Build (Ref β))
    (append : Ref β → Build Unit) : Prop :=
  ∃ request, ∀ s : Store, a.perform.run s = match cls.validate request with
    | .ok document => (.ok (), (append (load document s).1 (load document s).2).2)
    | .error failure => (.error (.invalid failure), s)

theorem makesPart_configuration (owner : Ref FormModule) (evaluator condition : Json) :
    (configuration owner evaluator condition).MakesPart .configuration Configuration.load
      (FormModule.append owner) := by
  refine ⟨.object [("evaluator", evaluator), ("condition", condition)], fun s ↦ ?_⟩
  rw [perform, run_discard, FormModule.addConfiguration, CheckedBuild.run_validated_bind]
  cases RecordClass.configuration.validate _ <;> rfl

theorem makesPart_form (owner : Ref Configuration) (id : Json) :
    (form owner id).MakesPart .form Form.load (Configuration.append owner) := by
  refine ⟨.object [("id", id)], fun s ↦ ?_⟩
  rw [perform, run_discard, Configuration.addForm, CheckedBuild.run_validated_bind]
  cases RecordClass.form.validate _ <;> rfl

theorem makesPart_formSet (owner : Ref Appearance) (id appearance labelId template : Json) :
    (formSet owner id appearance labelId template).MakesPart .formSet FormSet.load
      (Appearance.appendSet owner) := by
  refine ⟨.object [("id", id), ("appearance", appearance), ("label_id", labelId),
    ("template", template)], fun s ↦ ?_⟩
  rw [perform, run_discard, Appearance.addSet, CheckedBuild.run_validated_bind]
  cases RecordClass.formSet.validate _ <;> rfl

theorem makesPart_field (owner : Ref Appearance) (id labelId set : Json) :
    (field owner id labelId set).MakesPart .formField FormField.load
      (Appearance.appendField owner) := by
  refine ⟨.object [("id", id), ("label_id", labelId), ("set", set)], fun s ↦ ?_⟩
  rw [perform, run_discard, Appearance.addField, CheckedBuild.run_validated_bind]
  cases RecordClass.formField.validate _ <;> rfl

theorem makesPart_element (owner : Ref Appearance) (document : Json) :
    (element owner document).MakesPart .formField FormField.load
      (Appearance.appendField owner) := by
  refine ⟨document, fun s ↦ ?_⟩
  rw [perform, CheckedBuild.run_validated_bind]
  cases RecordClass.formField.validate _ <;> rfl

theorem makesPart_parameter (owner : Ref Control) (name value : Json) :
    (parameter owner name value).MakesPart .controlParameter ControlParameter.load
      (Control.append owner) := by
  refine ⟨.object [("name", name), ("value", value)], fun s ↦ ?_⟩
  rw [perform, run_discard, Control.addParameter, CheckedBuild.run_validated_bind]
  cases RecordClass.controlParameter.validate _ <;> rfl

/-- **What an addition does.** It is refused, and nothing is done; or the part is made apart from
everything there is and appended; or there is nothing to do, because the field is shown already. -/
inductive Performed (a : Addition) (s : Store) : Except Fault Unit → Store → Prop
  /-- The arguments are refused. -/
  | refused (failure : Failure) : Performed a s (.error (.invalid failure)) s
  /-- The new member is made and appended. -/
  | appended {made t : Store} {trees : List Entity} {item : Item}
    (hmade : s.Forest Store.Untouched made trees) (h : made.Appended a.list trees item t) :
    Performed a s (.ok ()) t
  /-- The field is shown already. -/
  | shownAlready {owner : Ref Visibility} {id : String} (ha : a = .shown owner id)
    (h : (Json.text id).isAmong (s.get owner).shown) : Performed a s (.ok ()) s

/-- A part that is made as a tree and then appended. -/
theorem MakesPart.performed {β : Type} {a : Addition} {cls : RecordClass}
    {load : Json → Build (Ref β)} {append : Ref β → Build Unit} {root : Ref β → Entity}
    (h : a.MakesPart cls load append) (hcls : cls ≠ .settings)
    (hload : ∀ j, cls.shape.isNormal j = true →
      s.Forest Store.Untouched (load j s).2 [root (load j s).1])
    (happend : ∀ (made : Store) (part : Ref β), a.owner.Exists made →
      made.Appended a.list [root part] (.entity (root part)) (append part made).2)
    (howner : a.owner.Exists s) : Performed a s (a.perform.run s).1 (a.perform.run s).2 := by
  obtain ⟨request, hrun⟩ := h
  rw [hrun]
  cases hvalidate : cls.validate request with
  | error failure => exact .refused failure
  | ok document =>
    obtain ⟨hissues, rfl⟩ := Shape.validate_eq_ok_iff.1 hvalidate
    have hnormal := Shape.isNormal_normal (RecordClass.isCoherent_shape hcls) hissues
    have hmade := hload _ hnormal
    exact .appended hmade (happend _ _ (hmade.grows.exists_of_exists _ howner))

theorem performed (a : Addition) (hs : s.Closed) (howner : a.owner.Exists s) :
    Performed a s (a.perform.run s).1 (a.perform.run s).2 := by
  cases a with
  | configuration owner evaluator condition =>
    exact (makesPart_configuration owner evaluator condition).performed nofun
      (fun j hj ↦ (Configuration.loaded hj hs).toForest)
      (fun _ part h ↦ Store.appended_configurations h part) howner
  | form owner id =>
    exact (makesPart_form owner id).performed nofun (fun j hj ↦ (Form.loaded hj hs).toForest)
      (fun _ part h ↦ Store.appended_forms h part) howner
  | formSet owner id appearance labelId template =>
    exact (makesPart_formSet owner id appearance labelId template).performed nofun
      (fun j hj ↦ (FormSet.loaded hj hs).toForest)
      (fun _ part h ↦ Store.appended_formSets h part) howner
  | field owner id labelId set =>
    exact (makesPart_field owner id labelId set).performed nofun
      (fun j hj ↦ (FormField.loaded hj hs).toForest)
      (fun _ part h ↦ Store.appended_formFields h part) howner
  | element owner document =>
    exact (makesPart_element owner document).performed nofun
      (fun j hj ↦ (FormField.loaded hj hs).toForest)
      (fun _ part h ↦ Store.appended_formFields h part) howner
  | parameter owner name value =>
    exact (makesPart_parameter owner name value).performed nofun
      (fun j hj ↦ (ControlParameter.loaded hj hs).toForest)
      (fun _ part h ↦ Store.appended_parameters h part) howner
  | shown owner id =>
    by_cases hshown : (Json.text id).isAmong (s.get owner).shown
    · have hrun : (shown owner id).perform.run s = (.ok (), s) :=
        congrArg (Prod.mk _) (Store.modify_of_eq (if_pos hshown))
      rw [hrun]
      exact .shownAlready rfl hshown
    · exact .appended (.nil _ hs) (Store.appended_shown howner hshown)

end Addition

end WorkflowArtifacts
