import WorkflowArtifacts.Process.Graph
import WorkflowArtifacts.Store.Loading

/-!
# Reports on process graphs

What the check of a graph says about a process given as a document.
-/

namespace WorkflowArtifacts.Graph

/-- The outcome of the check of a graph. -/
structure Report where
  /-- What is wrong, in order. -/
  problems : List Problem
  /-- The ids of the start events, in order. -/
  startIds : List String
  deriving DecidableEq, Repr

/-- Checks the graph of a process given as a document. -/
def report (j : Json) : Except Fault Report := do
  let document ← Fault.ofValidation (RecordClass.process.validate j)
  let elements :=
    (document.itemsAt "flow_elements").map fun d ↦ Element.ofDocument (.ofDocument d) d
  return { problems := problems elements, startIds := (startEvents elements).map (·.id) }

end WorkflowArtifacts.Graph
