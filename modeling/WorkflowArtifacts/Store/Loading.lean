import WorkflowArtifacts.Store.Basic

/-!
# From documents to records

Builds the records that a document in normal form describes, parts before wholes, each of them
new. The functions are total: what a document in normal form cannot lack reads as empty.
-/

namespace WorkflowArtifacts

namespace Json

/-- The string under a key, if there is one. -/
def textAt? (j : Json) (key : String) : Option String := (j.get key).text?

/-- The string under a key that a document in normal form has. -/
def textAt (j : Json) (key : String) : String := (j.textAt? key).getD ""

/-- The truth value under a key, if there is one. -/
def boolAt? (j : Json) (key : String) : Option Bool := (j.get key).bool?

/-- The items of the array under a key. -/
def itemsAt (j : Json) (key : String) : List Json := (j.get key).items

end Json

open Build

/-! ## Definitions and processes -/

/-- The definition that a document describes. -/
def Definition.load (j : Json) : Build (Ref Definition) :=
  alloc
    { id := j.get "id"
      name := j.get "name"
      description := j.get "description"
      steps := j.itemsAt "steps" }

/-- The element of a known kind that a document describes. -/
def Element.ofDocument (kind : ElementKind) (j : Json) : Element :=
  let id := j.textAt "id"
  let name := j.textAt? "name"
  match kind with
  | .startEvent =>
    .startEvent { id, name, formKey := j.get "form_key", initiator := j.textAt? "initiator" }
  | .endEvent => .endEvent { id, name }
  | .userTask =>
    .userTask { id, name, formKey := j.textAt? "form_key", assignee := j.textAt? "assignee" }
  | .scriptTask =>
    .scriptTask
      { id, name, scriptFormat := j.textAt "script_format", script := j.textAt? "script" }
  | .sequenceFlow =>
    .sequenceFlow
      { id
        sourceRef := j.textAt "source_ref"
        targetRef := j.textAt "target_ref"
        condition := j.textAt? "condition" }
  | .parallelGateway => .parallelGateway { id, name }
  | .exclusiveGateway => .exclusiveGateway { id, name }

/-- The kind that a document gives as its own. -/
def ElementKind.ofDocument (j : Json) : ElementKind :=
  ((j.textAt? "type").bind ElementKind.ofTag?).getD .startEvent

/-- The element that a document describes. -/
def Element.load (j : Json) : Build (Ref Element) :=
  alloc (Element.ofDocument (.ofDocument j) j)

/-- The process that a document describes. -/
def Process.load (j : Json) : Build (Ref Process) := do
  let elements ← (j.itemsAt "flow_elements").mapM Element.load
  alloc { id := j.get "id", name := j.textAt? "name", elements := some elements }

/-! ## Content models -/

/-- The namespace that a document describes. -/
def ModelNamespace.load (j : Json) : Build (Ref ModelNamespace) :=
  alloc { uri := j.textAt "uri", qualifier := j.textAt "prefix" }

/-- The content model that a document describes. -/
def ContentModel.load (j : Json) : Build (Ref ContentModel) := do
  let namespaces ← (j.itemsAt "namespaces").mapM ModelNamespace.load
  let imports ← (j.itemsAt "imports").mapM ModelNamespace.load
  alloc
    { name := j.textAt? "name"
      description := j.textAt? "description"
      author := j.textAt? "author"
      version := j.textAt? "version"
      namespaces
      imports }

/-! ## Form modules -/

/-- The parameter that a document describes. -/
def ControlParameter.load (j : Json) : Build (Ref ControlParameter) :=
  alloc { name := j.textAt "name", value := j.textAt "value" }

/-- The control that a document describes. -/
def Control.load (j : Json) : Build (Ref Control) := do
  let parameters ← (j.itemsAt "control_parameters").mapM ControlParameter.load
  alloc { template := j.textAt? "template", parameters }

/-- The set that a document describes. -/
def FormSet.load (j : Json) : Build (Ref FormSet) :=
  alloc
    { id := j.textAt "id"
      appearance := j.textAt? "appearance"
      labelId := j.textAt? "label_id"
      template := j.textAt? "template"
      parent := j.textAt? "parent" }

/-- The field that a document describes. -/
def FormField.load (j : Json) : Build (Ref FormField) := do
  let control ←
    match j.get "control" with
    | .null => pure none
    | document => some <$> Control.load document
  alloc
    { id := j.textAt? "id"
      labelId := j.textAt? "label_id"
      set := j.textAt? "set"
      readOnly := j.boolAt? "read_only"
      mandatory := j.boolAt? "mandatory"
      help := j.textAt? "help"
      control }

/-- The visibility that a document describes. -/
def Visibility.load (j : Json) : Build (Ref Visibility) :=
  alloc { shown := j.itemsAt "show_field_elements", hidden := j.itemsAt "hide_field_elements" }

/-- The appearance that a document describes. -/
def Appearance.load (j : Json) : Build (Ref Appearance) := do
  let sets ← (j.itemsAt "form_sets").mapM FormSet.load
  let fields ← (j.itemsAt "form_fields").mapM FormField.load
  alloc { sets, fields := fields.map .field }

/-- The form that a document describes. -/
def Form.load (j : Json) : Build (Ref Form) := do
  let visibility ← Visibility.load (j.get "form_field_visibility")
  let appearance ← Appearance.load (j.get "form_appearance")
  alloc { id := j.textAt? "id", visibility, appearance }

/-- The configuration that a document describes. -/
def Configuration.load (j : Json) : Build (Ref Configuration) := do
  let forms ← (j.itemsAt "forms").mapM Form.load
  alloc { evaluator := j.textAt? "evaluator", condition := j.textAt? "condition", forms }

/-- The form module that a document describes. -/
def FormModule.load (j : Json) : Build (Ref FormModule) := do
  let configurations ← (j.itemsAt "configurations").mapM Configuration.load
  alloc { id := j.textAt? "id", configurations }

end WorkflowArtifacts
