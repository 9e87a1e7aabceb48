import WorkflowArtifacts.Content
import WorkflowArtifacts.Store.Basic

/-!
# From records to contents

What a stored record amounts to at the moment, with the contents of its parts in the places of
references. Fields stand in the order of the record's class.

Fields that can be assigned without a check may hold any document, and an appearance may list
anything as a field. The contents say where that is the case.
-/

namespace WorkflowArtifacts

namespace Content

/-- A string, or the absent value. -/
def ofText? (s : Option String) : Content := .plain (.ofText? s)

/-- A string. -/
def ofText (s : String) : Content := .plain (.text s)

/-- A truth value, or the absent value. -/
def ofBool? (b : Option Bool) : Content := .plain (.ofBool? b)

/-- Any document where a string or the absent value is asked for. -/
def ofAny (above : Nat) (j : Json) : Content :=
  if j.isNull || j.text?.isSome then .plain j else .foreign above j

end Content

open Content

/-- The content of a definition. -/
def Definition.content (d : Definition) : Content :=
  .record .definition
    [("id", ofAny 0 d.id), ("name", ofAny 0 d.name), ("description", ofAny 0 d.description),
      ("steps", .list (d.steps.map fun step ↦ .entries step.entries))]

/-- The fields of an element besides its tag, where there are levels between the element and the
content around it. -/
def Element.ownContents (above : Nat) : Element → List (String × Content)
  | .startEvent e =>
    [("id", ofText e.id), ("name", ofText? e.name), ("form_key", ofAny above e.formKey),
      ("initiator", ofText? e.initiator)]
  | .endEvent e | .parallelGateway e | .exclusiveGateway e =>
    [("id", ofText e.id), ("name", ofText? e.name)]
  | .userTask e =>
    [("id", ofText e.id), ("name", ofText? e.name), ("form_key", ofText? e.formKey),
      ("assignee", ofText? e.assignee)]
  | .scriptTask e =>
    [("id", ofText e.id), ("name", ofText? e.name), ("script_format", ofText e.scriptFormat),
      ("script", ofText? e.script)]
  | .sequenceFlow e =>
    [("id", ofText e.id), ("source_ref", ofText e.sourceRef), ("target_ref", ofText e.targetRef),
      ("condition", ofText? e.condition)]

/-- The content of an element with levels between it and the content around it. -/
def Element.content (above : Nat) (e : Element) : Content :=
  .record (.elementOf e.kind) (("type", ofText e.kind.tag.value) :: e.ownContents above)

/-- The content of a namespace. -/
def ModelNamespace.content (n : ModelNamespace) : Content :=
  .record .modelNamespace [("uri", ofText n.uri), ("prefix", ofText n.qualifier)]

/-- The content of a parameter. -/
def ControlParameter.content (p : ControlParameter) : Content :=
  .record .controlParameter [("name", ofText p.name), ("value", ofText p.value)]

/-- The content of a set. -/
def FormSet.content (f : FormSet) : Content :=
  .record .formSet
    [("id", ofText f.id), ("appearance", ofText? f.appearance), ("label_id", ofText? f.labelId),
      ("template", ofText? f.template), ("parent", ofText? f.parent)]

/-- The content of a visibility. -/
def Visibility.content (v : Visibility) : Content :=
  .record .visibility
    [("show_field_elements", .list (v.shown.map (ofAny 0))),
      ("hide_field_elements", .list (v.hidden.map (ofAny 0)))]

/-- The content of settings. -/
def Settings.content (s : Settings) : Content :=
  .record .settings
    [("log_level", ofText s.logLevel), ("model_author", ofText? s.modelAuthor),
      ("model_version", ofText? s.modelVersion)]

namespace Store

variable (s : Store)

/-- The content of a stored element. -/
def elementContent (above : Nat) (r : Ref Element) : Content := (s.get r).content above

/-- The content of a stored process. An element counts as one of the classes that a process may
list only if it is as its class asks; otherwise there is a level between it and the process. A
malformed process has no list of elements. -/
def processContent (r : Ref Process) : Content :=
  let p := s.get r
  .record .process
    [("id", ofAny 0 p.id), ("name", ofText? p.name),
      ("flow_elements",
        match p.elements with
        | some elements => .list (elements.map (s.elementContent 1))
        | none => .foreign 0 .null)]

/-- The content of a stored namespace. -/
def namespaceContent (r : Ref ModelNamespace) : Content := (s.get r).content

/-- The content of a stored content model. -/
def contentModelContent (r : Ref ContentModel) : Content :=
  let m := s.get r
  .record .contentModel
    [("name", ofText? m.name), ("description", ofText? m.description),
      ("author", ofText? m.author), ("version", ofText? m.version),
      ("namespaces", .list (m.namespaces.map s.namespaceContent)),
      ("imports", .list (m.imports.map s.namespaceContent))]

/-- The content of a stored parameter. -/
def parameterContent (r : Ref ControlParameter) : Content := (s.get r).content

/-- The content of a stored control. -/
def controlContent (r : Ref Control) : Content :=
  let c := s.get r
  .record .control
    [("template", ofText? c.template),
      ("control_parameters", .list (c.parameters.map s.parameterContent))]

/-- The content of a stored set. -/
def formSetContent (r : Ref FormSet) : Content := (s.get r).content

/-- The content of a stored field. -/
def formFieldContent (r : Ref FormField) : Content :=
  let f := s.get r
  .record .formField
    [("id", ofText? f.id), ("label_id", ofText? f.labelId), ("set", ofText? f.set),
      ("read_only", ofBool? f.readOnly), ("mandatory", ofBool? f.mandatory),
      ("help", ofText? f.help),
      ("control",
        match f.control with
        | some control => s.controlContent control
        | none => .plain .null)]

/-- The content of a stored visibility. -/
def visibilityContent (r : Ref Visibility) : Content := (s.get r).content

/-- The content of what an appearance lists as a field. -/
def fieldEntryContent : FieldEntry → Content
  | .field r => s.formFieldContent r
  | .loose r => .entry (s.looseItem r)

/-- The content of a stored appearance. -/
def appearanceContent (r : Ref Appearance) : Content :=
  let a := s.get r
  .record .appearance
    [("form_sets", .list (a.sets.map s.formSetContent)),
      ("form_fields", .list (a.fields.map s.fieldEntryContent))]

/-- The content of a stored form. -/
def formContent (r : Ref Form) : Content :=
  let f := s.get r
  .record .form
    [("id", ofText? f.id), ("form_field_visibility", s.visibilityContent f.visibility),
      ("form_appearance", s.appearanceContent f.appearance)]

/-- The content of a stored configuration. -/
def configurationContent (r : Ref Configuration) : Content :=
  let c := s.get r
  .record .configuration
    [("evaluator", ofText? c.evaluator), ("condition", ofText? c.condition),
      ("forms", .list (c.forms.map s.formContent))]

/-- The content of a stored form module. -/
def formModuleContent (r : Ref FormModule) : Content :=
  let m := s.get r
  .record .formModule
    [("id", ofText? m.id),
      ("configurations", .list (m.configurations.map s.configurationContent))]

end Store

end WorkflowArtifacts
