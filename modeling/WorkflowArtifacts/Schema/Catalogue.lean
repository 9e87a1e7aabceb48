import WorkflowArtifacts.Schema.Rendering

/-!
# The classes of records

The shapes of everything that is read from or written to documents: workflow definitions, the
process graph with its seven kinds of elements, content models, form modules down to the
parameters of a control, and settings.

The serializer of form modules has names of its own for some fields; those of process graphs and
content models go by the library's names throughout.
-/

namespace WorkflowArtifacts

open Schema

/-- The kinds of elements of a process graph. -/
inductive ElementKind where
  /-- Where the process starts. -/
  | startEvent
  /-- Where the process ends. -/
  | endEvent
  /-- Work for a person. -/
  | userTask
  /-- Work for a script. -/
  | scriptTask
  /-- A connection between two elements. -/
  | sequenceFlow
  /-- A gateway through which all branches are taken. -/
  | parallelGateway
  /-- A gateway through which one branch is taken. -/
  | exclusiveGateway
  deriving DecidableEq, Repr

namespace ElementKind

/-- All kinds, in the order in which messages list them. -/
def all : List ElementKind :=
  [.startEvent, .endEvent, .userTask, .scriptTask, .sequenceFlow, .parallelGateway,
    .exclusiveGateway]

/-- The class name of the elements of a kind. -/
def title : ElementKind → String
  | .startEvent => "StartEvent"
  | .endEvent => "EndEvent"
  | .userTask => "UserTask"
  | .scriptTask => "ScriptTask"
  | .sequenceFlow => "SequenceFlow"
  | .parallelGateway => "ParallelGateway"
  | .exclusiveGateway => "ExclusiveGateway"

/-- The tag of a kind in documents and messages. -/
def tag : ElementKind → Tag
  | .startEvent => ⟨"start_event", "FlowElementType.START_EVENT"⟩
  | .endEvent => ⟨"end_event", "FlowElementType.END_EVENT"⟩
  | .userTask => ⟨"user_task", "FlowElementType.USER_TASK"⟩
  | .scriptTask => ⟨"script_task", "FlowElementType.SCRIPT_TASK"⟩
  | .sequenceFlow => ⟨"sequence_flow", "FlowElementType.SEQUENCE_FLOW"⟩
  | .parallelGateway => ⟨"parallel_gateway", "FlowElementType.PARALLEL_GATEWAY"⟩
  | .exclusiveGateway => ⟨"exclusive_gateway", "FlowElementType.EXCLUSIVE_GATEWAY"⟩

/-- The kind with a given tag. -/
def ofTag? (value : String) : Option ElementKind := all.find? (·.tag.value == value)

theorem mem_all (kind : ElementKind) : kind ∈ all := by cases kind <;> decide

theorem ofTag?_value (kind : ElementKind) : ofTag? kind.tag.value = some kind := by
  cases kind <;> decide

/-- The fields of a kind besides its tag. -/
def ownFields : ElementKind → List (FieldSpec × Shape)
  | .startEvent =>
    [required "id" .text, optional "name" .text, optional "form_key" .text,
      optional "initiator" .text]
  | .endEvent | .parallelGateway | .exclusiveGateway =>
    [required "id" .text, optional "name" .text]
  | .userTask =>
    [required "id" .text, optional "name" .text, optional "form_key" .text,
      optional "assignee" .text]
  | .scriptTask =>
    [required "id" .text, optional "name" .text,
      defaulted "script_format" .text (.text "javascript"), optional "script" .text]
  | .sequenceFlow =>
    [required "id" .text, required "source_ref" .text, required "target_ref" .text,
      optional "condition" .text]

/-- The fields of a kind. The tag may be left out where the kind is known. -/
def fields (kind : ElementKind) : Fields :=
  .ofList (defaulted "type" (.literal kind.tag) (.text kind.tag.value) :: kind.ownFields)

end ElementKind

/-! ## Shapes -/

namespace Shapes

/-- Elements of one kind. -/
def elementOf (kind : ElementKind) : Shape := .record kind.title kind.fields

/-- Elements of any kind, told apart by their tag. -/
def element : Shape :=
  .variants "type" (.ofList (ElementKind.all.map fun kind ↦ (kind.tag, kind.fields)))

/-- Workflow definitions, whose steps are left open. -/
def definition : Shape :=
  .record "WorkflowDefinition" (.ofList
    [optional "id" .text, optional "name" .text, optional "description" .text,
      listing "steps" .document])

/-- Process graphs. -/
def process : Shape :=
  .record "Process" (.ofList
    [optional "id" .text, optional "name" .text, listing "flow_elements" element])

/-- Namespaces of content models. -/
def modelNamespace : Shape :=
  .record "M2Namespace" (.ofList [required "uri" .text, required "prefix" .text])

/-- Content models. -/
def contentModel : Shape :=
  .record "M2Model" (.ofList
    [optional "name" .text, optional "description" .text, optional "author" .text,
      optional "version" .text, listing "namespaces" modelNamespace,
      listing "imports" modelNamespace])

/-- Parameters of form controls. -/
def controlParameter : Shape :=
  .record "FormFieldControlParameter" (.ofList [required "name" .text, required "value" .text])

/-- Form controls. -/
def control : Shape :=
  .record "FormFieldControl" (.ofList
    [optional "template" .text,
      writtenAs (listing "control_parameters" controlParameter) "control-param"])

/-- Sets that group the fields of a form. -/
def formSet : Shape :=
  .record "FormSet" (.ofList
    [required "id" .text, optional "appearance" .text,
      writtenAs (optional "label_id" .text) "label-id", optional "template" .text,
      optional "parent" .text])

/-- Fields of a form. -/
def formField : Shape :=
  .record "FormField" (.ofList
    [optional "id" .text, writtenAs (optional "label_id" .text) "label-id",
      optional "set" .text, writtenAs (optional "read_only" .flag) "read-only",
      optional "mandatory" .flag, optional "help" .text, optional "control" control])

/-- Which fields of a form are shown and which are hidden. -/
def visibility : Shape :=
  .record "FormFieldVisibility" (.ofList
    [writtenAs (listing "show_field_elements" .text) "show",
      writtenAs (listing "hide_field_elements" .text) "hide"])

/-- How the fields of a form appear. -/
def appearance : Shape :=
  .record "FormAppearance" (.ofList
    [writtenAs (listing "form_sets" formSet) "set",
      writtenAs (listing "form_fields" formField) "field"])

/-- The visibility of a form that mentions no fields. -/
def emptyVisibility : Json :=
  .object [("show_field_elements", .array []), ("hide_field_elements", .array [])]

/-- The appearance of a form without sets and fields. -/
def emptyAppearance : Json := .object [("form_sets", .array []), ("form_fields", .array [])]

/-- Forms. -/
def form : Shape :=
  .record "Form" (.ofList
    [optional "id" .text,
      writtenAs (defaulted "form_field_visibility" visibility emptyVisibility)
        "field-visibility",
      writtenAs (defaulted "form_appearance" appearance emptyAppearance) "appearance"])

/-- Configurations, which say when their forms apply. -/
def configuration : Shape :=
  .record "Configuration" (.ofList
    [optional "evaluator" .text, optional "condition" .text, listing "forms" form])

/-- Form modules. -/
def formModule : Shape :=
  .record "Module" (.ofList [optional "id" .text, listing "configurations" configuration])

/-- Settings of a conversion. -/
def settings : Shape :=
  .record "ConversionSettings" (.ofList
    [defaulted "log_level" .text (.text "INFO"), optional "model_author" .text,
      defaulted "model_version" (.nullable .text) (.text "1.0")])

end Shapes

/-! ## Classes -/

/-- The classes of records, and the union of the element classes. -/
inductive RecordClass where
  /-- Workflow definitions. -/
  | definition
  /-- Elements of one kind. -/
  | elementOf (kind : ElementKind)
  /-- Elements of any kind. -/
  | element
  /-- Process graphs. -/
  | process
  /-- Namespaces of content models. -/
  | modelNamespace
  /-- Content models. -/
  | contentModel
  /-- Parameters of form controls. -/
  | controlParameter
  /-- Form controls. -/
  | control
  /-- Sets of fields. -/
  | formSet
  /-- Fields. -/
  | formField
  /-- Visibilities. -/
  | visibility
  /-- Appearances. -/
  | appearance
  /-- Forms. -/
  | form
  /-- Configurations. -/
  | configuration
  /-- Form modules. -/
  | formModule
  /-- Settings. -/
  | settings
  deriving DecidableEq, Repr

namespace RecordClass

/-- All classes. -/
def all : List RecordClass :=
  [.definition, .element, .process, .modelNamespace, .contentModel, .controlParameter, .control,
    .formSet, .formField, .visibility, .appearance, .form, .configuration, .formModule, .settings]
    ++ ElementKind.all.map .elementOf

/-- The shape of the records of a class. -/
def shape : RecordClass → Shape
  | .definition => Shapes.definition
  | .elementOf kind => Shapes.elementOf kind
  | .element => Shapes.element
  | .process => Shapes.process
  | .modelNamespace => Shapes.modelNamespace
  | .contentModel => Shapes.contentModel
  | .controlParameter => Shapes.controlParameter
  | .control => Shapes.control
  | .formSet => Shapes.formSet
  | .formField => Shapes.formField
  | .visibility => Shapes.visibility
  | .appearance => Shapes.appearance
  | .form => Shapes.form
  | .configuration => Shapes.configuration
  | .formModule => Shapes.formModule
  | .settings => Shapes.settings

/-- The name by which requests ask for a class. -/
def name (c : RecordClass) : String :=
  match c.shape with
  | .record title _ => title
  | _ => "FlowElement"

/-- The name of a class in reports of refused documents: a union goes by the names of its
members. -/
def title (c : RecordClass) : String :=
  match c.shape with
  | .record title _ => title
  | _ => "tagged-union[" ++ ",".intercalate (ElementKind.all.map ElementKind.title) ++ "]"

/-- The fields of a class; a union of classes has none of its own. -/
def fields (c : RecordClass) : Fields :=
  match c.shape with
  | .record _ fields => fields
  | _ => .nil

/-- The name under which a style writes the field with a name. -/
def writtenName (c : RecordClass) (style : Style) (name : String) : String :=
  ((c.fields.find? name).map style.nameOf).getD name

/-- The class with a given name. -/
def ofName? (name : String) : Option RecordClass := all.find? (·.name == name)

/-- The normal form of a document of a class, or its issues. -/
def validate (c : RecordClass) (j : Json) : Except Failure Json := c.shape.validate c.title j

/-- A document of a class in normal form, written in a style. -/
def render (c : RecordClass) (style : Style) (j : Json) : Json := c.shape.render style j

theorem mem_all (c : RecordClass) : c ∈ all := by
  cases c with
  | elementOf kind => cases kind <;> decide
  | _ => decide

end RecordClass

end WorkflowArtifacts
