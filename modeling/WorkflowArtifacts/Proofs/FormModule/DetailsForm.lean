import WorkflowArtifacts.FormModule.DetailsForm
import WorkflowArtifacts.Proofs.Store.Growth
import WorkflowArtifacts.Store.Contents

/-!
# What a details form amounts to

Every details form amounts to the same content, whatever the store it is made in. The content is
written down once, from the same plan that the form is made from, and a form is tied to it by way of
its records: `Stands` says, part by part, that the records of a form hold what the plan asks for.

That relation is kept when other forms are added, which a statement about contents would not show
directly, since a content says nothing about the records that it was read from.
-/

namespace WorkflowArtifacts

open Build

/-- Making things in a row adds nothing but parts of forms if making each of them adds nothing else,
and what is known of each thing is known in the end if it stays known while forms are added. -/
theorem mapM_grows {α β : Type} {f : α → Build β} {P : Store → β → α → Prop}
    (hstable : ∀ {s t : Store} {y : β} {x : α}, P s y x → s.FormsGrow t → P t y x)
    (hf : ∀ (x : α) (s : Store), s.OnlyFormsGrow (f x s).2 ∧ P (f x s).2 (f x s).1 x)
    (xs : List α) (s : Store) :
    s.OnlyFormsGrow (xs.mapM f s).2 ∧
      List.Forall₂ (P (xs.mapM f s).2) (xs.mapM f s).1 xs := by
  induction xs generalizing s with
  | nil => exact ⟨.refl s, .nil⟩
  | cons x xs ih =>
    obtain ⟨hfirst, hx⟩ := hf x s
    obtain ⟨hrest, hxs⟩ := ih (f x s).2
    rw [List.mapM_cons]
    exact ⟨hfirst.trans hrest, .cons (hstable hx hrest.toFormsGrow) hxs⟩

theorem alloc_grows {α : Type} [Stored α] [FormPart α] (x : α) (s : Store) :
    s.OnlyFormsGrow (alloc x s).2 ∧ (alloc x s).2.Holds (alloc x s).1 x :=
  ⟨FormPart.onlyFormsGrow_alloc s x, s.holds_alloc x⟩

theorem mapM_alloc_grows {α : Type} [Stored α] [FormPart α] (xs : List α) (s : Store) :
    s.OnlyFormsGrow (xs.mapM alloc s).2 ∧
      List.Forall₂ (xs.mapM alloc s).2.Holds (xs.mapM alloc s).1 xs :=
  mapM_grows (P := Store.Holds) Store.Holds.of_formsGrow alloc_grows xs s

namespace DetailsForm

/-! ## The content -/

/-- The content of the control of a planned field. -/
def FieldPlan.controlContent (plan : FieldPlan) : Content :=
  match plan.template with
  | none => .plain .null
  | some template =>
    .record .control
      [("template", .ofText? (some template)),
        ("control_parameters", .list (plan.parameters.map ControlParameter.content))]

/-- The content of a planned field. -/
def FieldPlan.content (plan : FieldPlan) : Content :=
  .record .formField
    [("id", .ofText? (some plan.id)), ("label_id", .ofText? plan.labelId),
      ("set", .ofText? plan.set), ("read_only", .ofBool? none), ("mandatory", .ofBool? none),
      ("help", .ofText? none), ("control", plan.controlContent)]

/-- The content of a form that is made from what it shows, its sets and the plans of its fields. -/
def assembledContent (shown : Visibility) (sets : List FormSet) (plans : List FieldPlan) :
    Content :=
  .record .form
    [("id", .ofText? none), ("form_field_visibility", shown.content),
      ("form_appearance",
        .record .appearance
          [("form_sets", .list (sets.map FormSet.content)),
            ("form_fields", .list (plans.map FieldPlan.content))])]

/-- The content of the details form. -/
def content : Content := assembledContent visibility sets fields

/-! ## The records -/

/-- Whether the control of a field, if it has one, is as planned. -/
def ControlStands (s : Store) (plan : FieldPlan) (control : Option (Ref Control)) : Prop :=
  match plan.template with
  | none => control = none
  | some template =>
    ∃ r parameters, control = some r ∧
      s.Holds r { template := some template, parameters } ∧
      List.Forall₂ s.Holds parameters plan.parameters

/-- Whether a field is as planned. -/
def FieldStands (s : Store) (r : Ref FormField) (plan : FieldPlan) : Prop :=
  ∃ control, ControlStands s plan control ∧
    s.Holds r
      { id := some plan.id
        labelId := plan.labelId
        set := plan.set
        readOnly := none
        mandatory := none
        help := none
        control }

/-- Whether a form shows, in all of its parts, what it was to be made from. -/
def FormStands (s : Store) (r : Ref Form) (shown : Visibility) (sets : List FormSet)
    (plans : List FieldPlan) : Prop :=
  ∃ visibility appearance setRefs fieldRefs,
    s.Holds r { id := none, visibility, appearance } ∧
    s.Holds visibility shown ∧
    s.Holds appearance { sets := setRefs, fields := fieldRefs.map .field } ∧
    List.Forall₂ s.Holds setRefs sets ∧
    List.Forall₂ (FieldStands s) fieldRefs plans

/-- Whether a form is a details form in all of its parts. -/
def Stands (s : Store) (r : Ref Form) : Prop := FormStands s r visibility sets fields

variable {s t : Store}

theorem ControlStands.of_formsGrow {plan : FieldPlan} {control : Option (Ref Control)}
    (h : ControlStands s plan control) (hgrow : s.FormsGrow t) : ControlStands t plan control := by
  rw [ControlStands] at h ⊢
  split at h
  · exact h
  · obtain ⟨r, parameters, hcontrol, hr, hparameters⟩ := h
    exact ⟨r, parameters, hcontrol, hr.of_formsGrow hgrow,
      Store.forall₂_holds_of_formsGrow hparameters hgrow⟩

theorem FieldStands.of_formsGrow {r : Ref FormField} {plan : FieldPlan}
    (h : FieldStands s r plan) (hgrow : s.FormsGrow t) : FieldStands t r plan := by
  obtain ⟨control, hcontrol, hr⟩ := h
  exact ⟨control, hcontrol.of_formsGrow hgrow, hr.of_formsGrow hgrow⟩

theorem FormStands.of_formsGrow {r : Ref Form} {shown : Visibility} {sets : List FormSet}
    {plans : List FieldPlan} (h : FormStands s r shown sets plans) (hgrow : s.FormsGrow t) :
    FormStands t r shown sets plans := by
  obtain ⟨visibility, appearance, setRefs, fieldRefs, hr, hshown, happearance, hsets, hfields⟩ := h
  exact ⟨visibility, appearance, setRefs, fieldRefs, hr.of_formsGrow hgrow,
    hshown.of_formsGrow hgrow, happearance.of_formsGrow hgrow,
    Store.forall₂_holds_of_formsGrow hsets hgrow,
    hfields.imp fun _ _ hfield ↦ hfield.of_formsGrow hgrow⟩

/-- A details form stays one while other forms are added. -/
theorem Stands.of_formsGrow {r : Ref Form} (h : Stands s r) (hgrow : s.FormsGrow t) :
    Stands t r :=
  FormStands.of_formsGrow h hgrow

/-! ## From records to the content -/

/-- Lists whose members agree one by one under two readings agree as a whole. -/
theorem map_eq_map_of_forall₂ {α β γ : Type} {f : α → γ} {g : β → γ} {xs : List α} {ys : List β}
    (h : List.Forall₂ (fun x y ↦ f x = g y) xs ys) : xs.map f = ys.map g := by
  rw [← List.forall₂_eq_eq_eq, List.forall₂_map_left_iff, List.forall₂_map_right_iff]
  exact h

theorem FieldStands.formFieldContent_eq {r : Ref FormField} {plan : FieldPlan}
    (h : FieldStands s r plan) : s.formFieldContent r = plan.content := by
  obtain ⟨control, hcontrol, hr⟩ := h
  rw [Store.formFieldContent, hr.2, FieldPlan.content, FieldPlan.controlContent]
  rw [ControlStands] at hcontrol
  split at hcontrol
  · rw [hcontrol]
  · obtain ⟨c, parameters, rfl, hc, hparameters⟩ := hcontrol
    have hcontents : parameters.map s.parameterContent
        = plan.parameters.map ControlParameter.content :=
      map_eq_map_of_forall₂ (hparameters.imp fun _ _ h ↦ congrArg _ h.2)
    simp only [Store.controlContent, hc.2, hcontents]

theorem FormStands.formContent_eq {r : Ref Form} {shown : Visibility} {sets : List FormSet}
    {plans : List FieldPlan} (h : FormStands s r shown sets plans) :
    s.formContent r = assembledContent shown sets plans := by
  obtain ⟨visibility, appearance, setRefs, fieldRefs, hr, hshown, happearance, hsets, hfields⟩ := h
  have hsetContents : setRefs.map s.formSetContent = sets.map FormSet.content :=
    map_eq_map_of_forall₂ (hsets.imp fun _ _ h ↦ congrArg _ h.2)
  have hfieldContents :
      (fieldRefs.map FieldEntry.field).map s.fieldEntryContent = plans.map FieldPlan.content := by
    rw [List.map_map]
    exact map_eq_map_of_forall₂ (hfields.imp fun _ _ h ↦ h.formFieldContent_eq)
  rw [Store.formContent, hr.2, Store.visibilityContent, hshown.2, Store.appearanceContent,
    happearance.2, hsetContents, hfieldContents, assembledContent]

theorem Stands.formContent_eq {r : Ref Form} (h : Stands s r) : s.formContent r = content :=
  FormStands.formContent_eq h

/-! ## Making the form -/

theorem buildControl_grows (template : String) (parameters : List ControlParameter) (s : Store) :
    s.OnlyFormsGrow (buildControl template parameters s).2 ∧
      ∃ refs, (buildControl template parameters s).2.Holds (buildControl template parameters s).1
          { template := some template, parameters := refs } ∧
        List.Forall₂ (buildControl template parameters s).2.Holds refs parameters := by
  obtain ⟨hfirst, hparameters⟩ := mapM_alloc_grows parameters s
  obtain ⟨hlast, hr⟩ := alloc_grows
    ({ template := some template, parameters := (parameters.mapM alloc s).1 } : Control)
    (parameters.mapM alloc s).2
  exact ⟨hfirst.trans hlast, _, hr,
    Store.forall₂_holds_of_formsGrow hparameters hlast.toFormsGrow⟩

theorem buildControl?_grows (plan : FieldPlan) (s : Store) :
    s.OnlyFormsGrow (plan.buildControl? s).2 ∧
      ControlStands (plan.buildControl? s).2 plan (plan.buildControl? s).1 := by
  rw [FieldPlan.buildControl?, ControlStands]
  cases plan.template with
  | none => exact ⟨.refl s, rfl⟩
  | some template =>
    obtain ⟨hgrow, refs, hr, hparameters⟩ := buildControl_grows template plan.parameters s
    exact ⟨hgrow, _, refs, rfl, hr, hparameters⟩

theorem buildField_grows (plan : FieldPlan) (s : Store) :
    s.OnlyFormsGrow (buildField plan s).2 ∧
      FieldStands (buildField plan s).2 (buildField plan s).1 plan := by
  obtain ⟨hfirst, hcontrol⟩ := buildControl?_grows plan s
  obtain ⟨hlast, hr⟩ := alloc_grows
    ({ id := some plan.id, labelId := plan.labelId, set := plan.set, readOnly := none,
       mandatory := none, help := none, control := (plan.buildControl? s).1 } : FormField)
    (plan.buildControl? s).2
  exact ⟨hfirst.trans hlast, _, hcontrol.of_formsGrow hlast.toFormsGrow, hr⟩

theorem assemble_grows (shown : Visibility) (sets : List FormSet) (plans : List FieldPlan)
    (s : Store) :
    s.OnlyFormsGrow (assemble shown sets plans s).2 ∧
      FormStands (assemble shown sets plans s).2 (assemble shown sets plans s).1 shown sets
        plans := by
  obtain ⟨hgrow₁, hshown⟩ := alloc_grows shown s
  obtain ⟨hgrow₂, hsets⟩ := mapM_alloc_grows sets (alloc shown s).2
  set s₂ := (sets.mapM alloc (alloc shown s).2).2
  obtain ⟨hgrow₃, hfields⟩ := mapM_grows (f := buildField) (P := FieldStands)
    FieldStands.of_formsGrow buildField_grows plans s₂
  set s₃ := (plans.mapM buildField s₂).2
  let appearance : Appearance :=
    { sets := (sets.mapM alloc (alloc shown s).2).1
      fields := (plans.mapM buildField s₂).1.map .field }
  obtain ⟨hgrow₄, happearance⟩ := alloc_grows appearance s₃
  let form : Form :=
    { id := none, visibility := (alloc shown s).1, appearance := (alloc appearance s₃).1 }
  obtain ⟨hgrow₅, hform⟩ := alloc_grows form (alloc appearance s₃).2
  -- what was known after each step is carried over the growth of all later ones
  have h₄ := hgrow₄.trans hgrow₅
  have h₃ := hgrow₃.trans h₄
  have h₂ := hgrow₂.trans h₃
  exact ⟨hgrow₁.trans h₂, _, _, _, _, hform, hshown.of_formsGrow h₂.toFormsGrow,
    happearance.of_formsGrow hgrow₅.toFormsGrow,
    Store.forall₂_holds_of_formsGrow hsets h₃.toFormsGrow,
    hfields.imp fun _ _ h ↦ h.of_formsGrow h₄.toFormsGrow⟩

/-- Making the form adds nothing but its parts, and they are as planned. -/
theorem build_grows (s : Store) :
    s.OnlyFormsGrow (build s).2 ∧ Stands (build s).2 (build s).1 :=
  assemble_grows visibility sets fields s

theorem addTo_apply (owner : Ref Configuration) (s : Store) :
    addTo owner s = ((build s).1,
      (build s).2.modify owner fun c ↦ { c with forms := c.forms ++ [(build s).1] }) := by
  rw [addTo, Build.bind_apply]
  generalize build s = built
  rfl

/-- The form that is added to a configuration stands there. -/
theorem addTo_stands (owner : Ref Configuration) (s : Store) :
    Stands (addTo owner s).2 (addTo owner s).1 := by
  have hstands := (build_grows s).2
  rw [addTo_apply]
  generalize build s = built at hstands ⊢
  exact hstands.of_formsGrow (.of_same rfl)

end DetailsForm

end WorkflowArtifacts
