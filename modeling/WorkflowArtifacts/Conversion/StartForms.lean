import WorkflowArtifacts.Conversion.Basic
import WorkflowArtifacts.FormModule.DetailsForm

/-!
# Start forms

A start event without a form key is given the default start form, and the form module gets a
configuration with the form that shows the details of the workflow. Every such start event adds a
configuration of its own, also where several share a process.

The form module is only asked for when a start event needs it, so a process whose start events
all have forms needs none.
-/

namespace WorkflowArtifacts.Conversion

open Build

/-- The form module that an artifact is, given that a configuration is about to be added to it. -/
def formModuleOf (artifact : Item) : ConversionM (Ref FormModule) := do
  match artifact with
  | .entity (.formModule r) => return r
  | other =>
    let store ← (get : Build Store)
    throw (.noPart (other.nature store) "add_configuration")

/-- Adds a configuration with the details form to a form module, on condition that the process has
the given id. -/
def addDetailsConfiguration (formModule : Ref FormModule) (processId : Json) : Build Unit := do
  let condition := Vocabulary.processCondition.fill processId.display
  let configuration ← alloc
    ({ evaluator := some Vocabulary.textComparison, condition := some condition, forms := [] } :
      Configuration)
  FormModule.append formModule configuration
  let _ ← DetailsForm.addTo configuration

/-- Gives the default start form to one element of a process, if it is a start event that needs
one, and says whether it was. The form module is looked up first; that it really is a form module
shows only when the configuration is added, and by then the form key has been assigned. -/
def supplyOne (process : Ref Process) (element : Ref Element) : ConversionM Bool := do
  let content : Element ← fetch element
  match content.startEvent? with
  | none => return false
  | some event =>
    if event.formKey.isNull then
      let artifact ← requireArtifact Vocabulary.formModuleKey
      update element (·.withFormKey (.text Vocabulary.defaultStartForm))
      let formModule ← formModuleOf artifact
      let owner : Process ← fetch process
      addDetailsConfiguration formModule owner.id
      note .info .startForm
        s!"Start event '{event.id}' uses default start form {Vocabulary.defaultStartForm}"
      return true
    else
      note .debug .startForm
        s!"Start event '{event.id}' keeps form key '{event.formKey.display}'"
      return false

/-- Gives the default start form to those of the listed elements that need one, and lists them. -/
def supplyAll (process : Ref Process) : List (Ref Element) → ConversionM (List (Ref Element))
  | [] => return []
  | element :: rest => do
    let supplied ← supplyOne process element
    let others ← supplyAll process rest
    return if supplied then element :: others else others

/-- Gives the default start form to every start event of the process that needs one, and lists
them. -/
def supplyStartForms : ConversionM (List (Ref Element)) := do
  match (← current).process with
  | none => throw .noProcess
  | some process => supplyAll process (← elementsOf process)

end WorkflowArtifacts.Conversion
