import WorkflowArtifacts.FormModule.Building
import WorkflowArtifacts.Vocabulary

/-!
# The details form

The form that shows the details of a workflow: five fields, grouped into five sets, of which four
fields have controls of their own. Everything it consists of is made anew for each form, so two
details forms share nothing and either can be completed without touching the other.
-/

namespace WorkflowArtifacts.DetailsForm

open Build Vocabulary

/-- The fields that the form shows, in order. -/
def shownFields : List String := [description, dueDate, priority, packageItems, notifications]

/-- What the form shows. It hides nothing. -/
def visibility : Visibility := { shown := shownFields.map .text, hidden := [] }

/-- The sets of the form, in order. -/
def sets : List FormSet :=
  [{ id := generalSet, appearance := some titleAppearance, labelId := some generalLabel,
     template := none, parent := none },
   { id := infoSet, appearance := none, labelId := none, template := some twoColumns,
     parent := none },
   { id := assigneeSet, appearance := some titleAppearance, labelId := some assigneeLabel,
     template := none, parent := none },
   { id := itemsSet, appearance := some titleAppearance, labelId := some itemsLabel,
     template := none, parent := none },
   { id := otherSet, appearance := some titleAppearance, labelId := some otherLabel,
     template := none, parent := none }]

/-- What one field of the form consists of. -/
structure FieldPlan where
  /-- The property that the field shows. -/
  id : String
  /-- The message that labels it. -/
  labelId : Option String
  /-- The set it belongs to. -/
  set : Option String
  /-- The template of its control, where it has one of its own. -/
  template : Option String
  /-- The parameters of its control. -/
  parameters : List ControlParameter
  deriving DecidableEq

/-- The fields of the form, in order. -/
def fields : List FieldPlan :=
  [{ id := description, labelId := some descriptionLabel, set := none,
     template := some multilineControl, parameters := [] },
   { id := dueDate, labelId := some dueDateLabel, set := some infoSet,
     template := some dateControl, parameters := [⟨showTime, "false"⟩, ⟨submitTime, "false"⟩] },
   { id := priority, labelId := some priorityLabel, set := some infoSet,
     template := some priorityControl, parameters := [] },
   { id := packageItems, labelId := none, set := some itemsSet, template := none,
     parameters := [] },
   { id := notifications, labelId := none, set := some otherSet,
     template := some notificationControl, parameters := [] }]

/-- Makes a control with its parameters. -/
def buildControl (template : String) (parameters : List ControlParameter) :
    Build (Ref Control) := do
  let parameters ← parameters.mapM alloc
  alloc { template := some template, parameters }

/-- Makes the control of a field, where it is to have one. -/
def FieldPlan.buildControl? (plan : FieldPlan) : Build (Option (Ref Control)) :=
  match plan.template with
  | some template => some <$> buildControl template plan.parameters
  | none => pure none

/-- Makes a field with its control. -/
def buildField (plan : FieldPlan) : Build (Ref FormField) := do
  let control ← plan.buildControl?
  alloc
    { id := some plan.id
      labelId := plan.labelId
      set := plan.set
      readOnly := none
      mandatory := none
      help := none
      control }

/-- Makes a form from what it shows, its sets and the plans of its fields. -/
def assemble (shown : Visibility) (sets : List FormSet) (plans : List FieldPlan) :
    Build (Ref Form) := do
  let visibility ← alloc shown
  let sets ← sets.mapM alloc
  let fields ← plans.mapM buildField
  let appearance ← alloc ({ sets, fields := fields.map .field } : Appearance)
  alloc { id := none, visibility, appearance }

/-- Makes the form. -/
def build : Build (Ref Form) := assemble visibility sets fields

/-- Makes the form and appends it to a configuration. -/
def addTo (owner : Ref Configuration) : Build (Ref Form) := do
  let form ← build
  Configuration.append owner form
  return form

end WorkflowArtifacts.DetailsForm
