import WorkflowArtifacts.Conversion.Basic
import WorkflowArtifacts.Vocabulary

/-!
# The content model of a conversion

The content model declares one namespace, whose short name is the process id; that keeps the
names of different processes apart. The model and the short name are stored as artifacts of their
own, after everything that may be refused has been checked, so either both are stored or none is.
-/

namespace WorkflowArtifacts.Conversion

open Build

/-- The document of the namespace that belongs to a process id. -/
def namespaceRequest (processId : Json) : Json :=
  .object
    [("uri", .text (Vocabulary.namespaceUri.fill processId.display)), ("prefix", processId)]

/-- The name of the content model that belongs to a process id. -/
def contentModelNameFor (processId : Json) : String :=
  qualifiedName processId.display Vocabulary.contentModelName

/-- The document of the content model that belongs to a process id. -/
def contentModelRequest (processId description author version : Json) : Json :=
  .object
    [("name", .text (contentModelNameFor processId)), ("description", description),
      ("author", author), ("version", version)]

/-- A name qualified by a value, and the document of the namespace that the value is the short
name of, which not every value can be. -/
def examineNames (qualifier name : Json) : Except Fault (String × Json) := do
  let own ← Fault.ofValidation (RecordClass.modelNamespace.validate (namespaceRequest qualifier))
  return (qualifiedName qualifier.display name.display, own)

/-- Makes the records of a content model: the model, its own namespace, and the namespaces that it
imports. -/
def assembleContentModel (modelDocument namespaceDocument : Json) :
    Build (Ref ContentModel × Ref ModelNamespace) := do
  let model ← ContentModel.load modelDocument
  let own ← ModelNamespace.load namespaceDocument
  let imports ← requiredImports.mapM alloc
  update model fun m ↦
    { m with namespaces := m.namespaces ++ [own], imports := m.imports ++ imports }
  return (model, own)

/-- Makes the content model for a process id and stores it. -/
def makeContentModel (processId author version : Json) :
    ConversionM (Ref ContentModel × Ref ModelNamespace) := do
  let definition ← currentDefinition
  let modelDocument ← validated .contentModel
    (contentModelRequest processId definition.description author version)
  let namespaceDocument ← validated .modelNamespace (namespaceRequest processId)
  let (model, own) ← assembleContentModel modelDocument namespaceDocument
  let ownNamespace : ModelNamespace ← fetch own
  putArtifact Vocabulary.contentModelKey (.entity (.contentModel model))
  putArtifact Vocabulary.qualifierKey (.data (.text ownNamespace.qualifier))
  note .info .contentModel
    s!"Created content model '{contentModelNameFor processId}' in namespace {ownNamespace.uri}"
  return (model, own)

end WorkflowArtifacts.Conversion
