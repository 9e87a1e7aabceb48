import WorkflowArtifacts.Conversion.Listener
import WorkflowArtifacts.Process.Graph

/-!
# The run of a conversion

A run makes the process if there is none yet, calls the listeners before the steps, every step
converter for every step, checks the graph, and calls the listeners after the steps. Problems of
the graph are logged and do not stop the run.

A fault stops it at once. Conversion faults come out as they are, any other fault comes out
wrapped; a process that cannot be made from the definition's id and name is reported before the
run begins and so is not wrapped.
-/

namespace WorkflowArtifacts.Conversion

open Build

/-- Makes the process from the definition's id and name if there is none yet. -/
def ensureProcess : ConversionM Unit := do
  if (← current).process.isNone then
    let definition ← currentDefinition
    let document ← validated .process
      (.object [("id", definition.id), ("name", definition.name)])
    let process ← Process.load document
    setProcess (some process)

/-- What is wrong with the graph of the process. -/
def graphProblems : ConversionM (List Graph.Problem) := do
  let process ← requireProcess "flow_elements"
  let elements ← elementsOf process
  let store ← (get : Build Store)
  return Graph.problems (elements.map store.get)

/-- Checks the graph and logs what is wrong with it. -/
def checkGraph : ConversionM Unit := do
  let problems ← graphProblems
  if !problems.isEmpty then
    let text := "; ".intercalate (problems.map Graph.Problem.message)
    note .warning .run s!"Process graph has validation warnings: {text}"

/-- Calls every step converter for a step. -/
def convertStep (converters : List StepConverter) (step : Json) : ConversionM Unit :=
  converters.forM fun converter ↦ converter step

/-- Everything between the making of the process and the end of the run. -/
def phases (listeners : List Listener) (converters : List StepConverter) : ConversionM Unit := do
  listeners.forM Listener.before
  (← currentDefinition).steps.forM (convertStep converters)
  checkGraph
  listeners.forM Listener.after

/-- Ends a run that a fault has stopped: logs the fault, and raises it again as the fault of the
run. -/
def abandon (fault : Fault) : ConversionM Unit := do
  let id := (← currentDefinition).id.display
  if fault.isConversionFault then
    note .error .run s!"Conversion of workflow definition '{id}' aborted"
    throw fault
  else
    note .error .run s!"Conversion of workflow definition '{id}' failed: {fault.message}"
    throw (.failed fault)

/-- Runs a conversion and returns its process. -/
def run (listeners : List Listener) (converters : List StepConverter) :
    ConversionM (Ref Process) := do
  ensureProcess
  tryCatch (phases listeners converters) abandon
  let process ← requireProcess "id"
  let content : Process ← fetch process
  note .info .run s!"Converted workflow definition into process '{content.id.display}'"
  return process

end WorkflowArtifacts.Conversion
