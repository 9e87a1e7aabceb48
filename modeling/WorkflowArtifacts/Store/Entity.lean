import WorkflowArtifacts.Store.Contents
import WorkflowArtifacts.Store.Loading

/-!
# Records of any class

The class of a stored record, its content, the record of one class that it may be, and the record
that a document describes.
-/

namespace WorkflowArtifacts

namespace Entity

/-- The class of a record. -/
def recordClass (s : Store) : Entity → RecordClass
  | .definition _ => .definition
  | .process _ => .process
  | .element r => .elementOf (s.get r).kind
  | .modelNamespace _ => .modelNamespace
  | .contentModel _ => .contentModel
  | .controlParameter _ => .controlParameter
  | .control _ => .control
  | .formSet _ => .formSet
  | .formField _ => .formField
  | .visibility _ => .visibility
  | .appearance _ => .appearance
  | .form _ => .form
  | .configuration _ => .configuration
  | .formModule _ => .formModule
  | .settings _ => .settings

/-- The content of a record. -/
def content (s : Store) : Entity → Content
  | .definition r => (s.get r).content
  | .process r => s.processContent r
  | .element r => s.elementContent 0 r
  | .modelNamespace r => s.namespaceContent r
  | .contentModel r => s.contentModelContent r
  | .controlParameter r => s.parameterContent r
  | .control r => s.controlContent r
  | .formSet r => s.formSetContent r
  | .formField r => s.formFieldContent r
  | .visibility r => s.visibilityContent r
  | .appearance r => s.appearanceContent r
  | .form r => s.formContent r
  | .configuration r => s.configurationContent r
  | .formModule r => s.formModuleContent r
  | .settings value => value.content

/-! ## Records of one class -/

/-- The form module, if the record is one. -/
def formModule? : Entity → Option (Ref FormModule)
  | .formModule r => some r
  | _ => none

/-- The configuration, if the record is one. -/
def configuration? : Entity → Option (Ref Configuration)
  | .configuration r => some r
  | _ => none

/-- The visibility, if the record is one. -/
def visibility? : Entity → Option (Ref Visibility)
  | .visibility r => some r
  | _ => none

/-- The appearance, if the record is one. -/
def appearance? : Entity → Option (Ref Appearance)
  | .appearance r => some r
  | _ => none

/-- The control, if the record is one. -/
def control? : Entity → Option (Ref Control)
  | .control r => some r
  | _ => none

end Entity

/-- The record that a document of a class describes. -/
def RecordClass.load : RecordClass → Json → Build Entity
  | .definition, j => .definition <$> Definition.load j
  | .elementOf kind, j => .element <$> Build.alloc (Element.ofDocument kind j)
  | .element, j => .element <$> Element.load j
  | .process, j => .process <$> Process.load j
  | .modelNamespace, j => .modelNamespace <$> ModelNamespace.load j
  | .contentModel, j => .contentModel <$> ContentModel.load j
  | .controlParameter, j => .controlParameter <$> ControlParameter.load j
  | .control, j => .control <$> Control.load j
  | .formSet, j => .formSet <$> FormSet.load j
  | .formField, j => .formField <$> FormField.load j
  | .visibility, j => .visibility <$> Visibility.load j
  | .appearance, j => .appearance <$> Appearance.load j
  | .form, j => .form <$> Form.load j
  | .configuration, j => .configuration <$> Configuration.load j
  | .formModule, j => .formModule <$> FormModule.load j
  | .settings, j => pure (.settings (Settings.ofDocument j))

end WorkflowArtifacts
