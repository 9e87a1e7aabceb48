import WorkflowArtifacts.Process.Basic

/-!
# Checking a process graph

A graph is sound when ids are unique, every sequence flow connects listed elements and a start
event exists. The check reports what is wrong instead of stopping: first the repeated ids in the
order in which they first occur, then the loose ends of sequence flows in list order, then a
missing start event.
-/

namespace WorkflowArtifacts.Graph

/-- Something wrong with a process graph. -/
inductive Problem where
  /-- Several elements have the same id. -/
  | repeatedId (id : String) (count : Nat)
  /-- A sequence flow leaves an element that is not listed. -/
  | unknownSource (flow source : String)
  /-- A sequence flow reaches an element that is not listed. -/
  | unknownTarget (flow target : String)
  /-- No element is a start event. -/
  | noStartEvent
  deriving DecidableEq, Repr

/-- The wording of a problem. -/
def Problem.message : Problem → String
  | .repeatedId id count => s!"Flow element id '{id}' used {count} times"
  | .unknownSource flow source => s!"Sequence flow '{flow}' source '{source}' not found"
  | .unknownTarget flow target => s!"Sequence flow '{flow}' target '{target}' not found"
  | .noStartEvent => "Process has no start event"

/-! ## Counting ids -/

/-- How often each id has been seen, in the order in which the ids were first seen. -/
abbrev Tally := List (String × Nat)

namespace Tally

/-- The tally after one more occurrence of an id. -/
def add : Tally → String → Tally
  | [], id => [(id, 1)]
  | (other, count) :: rest, id =>
    if other = id then (other, count + 1) :: rest else (other, count) :: add rest id

/-- The tally of a list of ids. -/
def ofList (ids : List String) : Tally := ids.foldl add []

/-- Whether an id has been seen. -/
def holds (tally : Tally) (id : String) : Bool := tally.any (·.1 == id)

/-- The ids that were seen more than once. -/
def repeated (tally : Tally) : List Problem :=
  tally.filterMap fun (id, count) ↦ if 1 < count then some (.repeatedId id count) else none

end Tally

/-! ## The check -/

/-- The loose ends of one sequence flow, its source first. -/
def looseEnds (tally : Tally) (flow : SequenceFlow) : List Problem :=
  (if tally.holds flow.sourceRef then [] else [.unknownSource flow.id flow.sourceRef])
    ++ (if tally.holds flow.targetRef then [] else [.unknownTarget flow.id flow.targetRef])

/-- The start events of a list of elements. -/
def startEvents (elements : List Element) : List StartEvent :=
  elements.filterMap Element.startEvent?

/-- Everything wrong with a graph, given its elements in order. -/
def problems (elements : List Element) : List Problem :=
  let tally := Tally.ofList (elements.map Element.id)
  tally.repeated
    ++ (elements.filterMap Element.sequenceFlow?).flatMap (looseEnds tally)
    ++ (if (startEvents elements).isEmpty then [.noStartEvent] else [])

end WorkflowArtifacts.Graph
