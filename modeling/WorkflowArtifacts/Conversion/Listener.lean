import WorkflowArtifacts.Conversion.ContentModel
import WorkflowArtifacts.Conversion.FormModule
import WorkflowArtifacts.Conversion.ArtifactId
import WorkflowArtifacts.Conversion.StartForms

/-!
# Listeners and step converters

A listener is called before the first step of a definition is converted and after the last one; a
step converter is called for each step. Both are computations on the state of the conversion.

The listener that sets up the artifacts makes the content model and the form module before the
steps, so that step converters can add to them, and gives start forms once the graph is complete.
-/

namespace WorkflowArtifacts

/-- Somebody who is called around the conversion of the steps. -/
structure Listener where
  /-- Called before the first step. -/
  before : ConversionM Unit
  /-- Called after the last step. -/
  after : ConversionM Unit

/-- Somebody who is called for each step. -/
abbrev StepConverter := Json → ConversionM Unit

namespace Listener

open Conversion

/-- The listener that does nothing. -/
def idle : Listener := ⟨pure (), pure ()⟩

/-- The listener that does one thing in one phase. -/
def inPhase (phase : Phase) (action : ConversionM Unit) : Listener :=
  match phase with
  | .before => ⟨action, pure ()⟩
  | .after => ⟨pure (), action⟩

/-- The hook of a listener for a phase. -/
def hook (listener : Listener) : Phase → ConversionM Unit
  | .before => listener.before
  | .after => listener.after

/-- Makes the content model and the form module. -/
def setUpArtifacts (settings : Settings) : ConversionM Unit := do
  let id ← artifactId
  let _ ← makeContentModel (.text id) (.ofText? settings.modelAuthor)
    (.ofText? settings.modelVersion)
  let _ ← makeFormModule (.text id)

/-- Gives start forms, with a warning where several start events needed one. -/
def completeStartForms : ConversionM Unit := do
  let supplied ← supplyStartForms
  let count := supplied.length
  if 1 < count then
    let process ← requireProcess "id"
    let content : Process ← Build.fetch process
    note .warning .artifactSetup
      (s!"Process '{content.id.display}' has {count} start events without form; "
        ++ "each adds its own details-form configuration")

/-- The listener that sets up the artifacts. -/
def artifactSetup (settings : Settings) : Listener := ⟨setUpArtifacts settings, completeStartForms⟩

end Listener

end WorkflowArtifacts
