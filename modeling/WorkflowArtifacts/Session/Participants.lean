import WorkflowArtifacts.Conversion.Listener
import WorkflowArtifacts.FormModule.Building
import WorkflowArtifacts.Session.Operation

/-!
# The step converters and listeners of a session

The step converters that a session offers, each of which acts on the steps of one type and passes
over all others, and the listeners it offers besides the one that sets up the artifacts.

A converter reads the entries of its step in a fixed order and only as far as it gets, so of two
faults in a step the earlier one is reported.
-/

namespace WorkflowArtifacts.Session

open Conversion

/-! ## Reading steps -/

/-- The entry of a step, which must be there. -/
def entry (step : Json) (key : String) : ConversionM Json :=
  match step.get? key with
  | some value => return value
  | none => throw (.missingEntry key)

/-- Does something for the steps of one type. -/
def onType (type : String) (action : Json → ConversionM Unit) : StepConverter := fun step ↦ do
  match ← entry step "type" with
  | .text found => if found == type then action step
  | _ => return

/-- The items of a value that is gone through item by item: those of an array, the characters of a
text and the keys of an object. -/
def itemsOf : Json → ConversionM (List Json)
  | .array items => return items
  | .text s => return s.toList.map fun c ↦ .text c.toString
  | .object entries => return entries.map fun e ↦ .text e.1
  | other => throw (.notIterable other.nature)

/-! ## Converters -/

/-- Adds an element, given as a document of a class, to the process. -/
def addElementOf (recordClass : RecordClass) (request : ConversionM Json) :
    ConversionM (Ref Element) := do
  let process ← requireProcess "add_flow_element"
  let document ← validated recordClass (← request)
  let element ← Element.load document
  appendElement process element
  return element

/-- Adds the start event of a step. -/
def convertStart (step : Json) : ConversionM Unit := do
  let _ ← addElementOf (.elementOf .startEvent) do
    return .object [("id", ← entry step "id"), ("form_key", step.get "form_key")]

/-- Adds the user task of a step. -/
def convertTask (step : Json) : ConversionM Unit := do
  let _ ← addElementOf (.elementOf .userTask) do
    return .object [("id", ← entry step "id"), ("name", step.get "name")]

/-- Adds the element of a step, of whatever kind it is. -/
def convertElement (step : Json) : ConversionM Unit := do
  let _ ← addElementOf .element (entry step "element")

/-- Shows a field on a form and adds the field itself. -/
def addVisibleField (form : Form) (field : Json) : ConversionM Unit := do
  Visibility.addShown form.visibility field
  let _ ← Appearance.addField form.appearance field .null .null

/-- Adds the configuration of a step with one form and its fields. -/
def convertConfig (step : Json) : ConversionM Unit := do
  let formModule ← formModuleOf (← requireArtifact Vocabulary.formModuleKey)
  let evaluator ← entry step "evaluator"
  let condition ← entry step "condition"
  let configuration ← FormModule.addConfiguration formModule evaluator condition
  let form ← Configuration.addForm configuration (step.get "form_id")
  let content : Form ← Build.fetch form
  let fields ← itemsOf ((step.get? "fields").getD (.array []))
  fields.forM (addVisibleField content)

/-- The step converter of a name. -/
def ConverterName.converter : ConverterName → StepConverter
  | .start => onType "start" convertStart
  | .task => onType "task" convertTask
  | .element => onType "element" convertElement
  | .config => onType "config" convertConfig
  | .fail => fun step ↦ do
    onType "fail" (fun step ↦ do throw (.rejected (← entry step "message").display)) step
    onType "abort" (fun step ↦ do throw (.aborted (← entry step "message").display)) step

/-! ## Listeners -/

/-- What a simple listener does in its phase. -/
def ListenerAction.perform (phase : Phase) : ListenerAction → ConversionM Unit
  | .fail message => throw (.rejected message.display)
  | .abort message => throw (.aborted message.display)
  | .trace message => enter (.trace phase message)
  | .putArtifact key value => Conversion.putArtifact key (.data value)
  | .requireFormModule => do
    let _ ← requireArtifact Vocabulary.formModuleKey
  | .supplyStartForms => do
    let _ ← Conversion.supplyStartForms
  | .setProcessId id => do
    let process ← requireProcess "id"
    Build.update process fun p ↦ { p with id }

/-- The listener that is asked for. Settings are read, and the environment consulted, when it is
made. -/
def ListenerRequest.listener (environment : Environment) :
    ListenerRequest → Except Fault Listener
  | .artifactSetup settings before after => do
    let settings ← Settings.readOr environment settings
    let full := Listener.artifactSetup settings
    return {
      before := if before then full.before else pure ()
      after := if after then full.after else pure () }
  | .idle => return .idle
  | .simple phase action => return .inPhase phase (action.perform phase)

end WorkflowArtifacts.Session
