import WorkflowArtifacts.Conversion.Basic
import WorkflowArtifacts.Vocabulary

/-!
# The form module of a conversion

Each conversion has one form module, named after the process id, to which everybody who takes
part adds configurations.
-/

namespace WorkflowArtifacts.Conversion

open Build

/-- Makes the form module for a process id and stores it. -/
def makeFormModule (processId : Json) : ConversionM (Ref FormModule) := do
  let id := Vocabulary.formModuleId.fill processId.display
  let formModule ← alloc ({ id := some id, configurations := [] } : FormModule)
  putArtifact Vocabulary.formModuleKey (.entity (.formModule formModule))
  note .info .formModule s!"Created share module '{id}'"
  return formModule

end WorkflowArtifacts.Conversion
