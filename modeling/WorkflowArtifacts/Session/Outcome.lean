import WorkflowArtifacts.Session.Perform

/-!
# Outcomes of operations

What a session answers to an operation: the result as a document, or the fault; the log of the
operation; and a summary of the conversion as it then is.

The summary shows what is stored as form module. If that cannot be written there is no summary, and
without it no answer to the session at all.
-/

namespace WorkflowArtifacts.Session

/-- A process in summary. -/
structure ProcessSummary where
  /-- The id. -/
  id : Json
  /-- How many elements are listed; a malformed process has no list. -/
  elementCount : Option Nat
  /-- The start events with their form keys; a malformed process has no list. -/
  starts : Option (List (String × Json))

/-- What is stored as form module, in summary. -/
inductive ModuleSummary where
  /-- A form module: its id, and for each configuration its condition and how many forms it has. -/
  | formModule (id : Option String) (configurations : List (Option String × Nat))
  /-- Anything else, as a document. -/
  | other (value : Json)

/-- A conversion in summary. -/
structure Summary where
  /-- The id of the definition. -/
  definitionId : Json
  /-- The process, if there is one. -/
  process : Option ProcessSummary
  /-- The keys of the artifacts in ascending order. -/
  artifactKeys : List String
  /-- What is stored as form module. -/
  formModule : ModuleSummary

/-- The answer to an operation. -/
structure Outcome where
  /-- The result, or the fault. -/
  result : Except Fault Json
  /-- The log, oldest entry first. -/
  log : List LogEntry
  /-- The conversion afterwards, if there is one. -/
  summary : Option Summary

/-- A process in summary. -/
def summarizeProcess (s : Store) (r : Ref Process) : ProcessSummary :=
  let p := s.get r
  { id := p.id
    elementCount := p.elements.map List.length
    starts := p.elements.map fun elements ↦
      (Graph.startEvents (elements.map s.get)).map fun e ↦ (e.id, e.formKey) }

/-- What is stored as form module, in summary. -/
def summarizeModule (s : Store) : Item → Except Fault ModuleSummary
  | .entity (.formModule r) =>
    let m := s.get r
    .ok <| .formModule m.id (m.configurations.map fun c ↦
      let configuration := s.get c
      (configuration.condition, configuration.forms.length))
  | item => .other <$> item.write s .full

/-- A conversion in summary. -/
def summarize (s : Store) (c : Conversion) : Except Fault Summary := do
  let formModule ← summarizeModule s (c.artifacts.get Vocabulary.formModuleKey)
  return {
    definitionId := (s.get c.definition).id
    process := c.process.map (summarizeProcess s)
    artifactKeys := c.artifacts.keys.mergeSort fun a b ↦ decide (a ≤ b)
    formModule }

/-- The current conversion in summary, if there is one. -/
def summary (session : Session) : Except Fault (Option Summary) :=
  session.current.mapM fun c ↦ summarize session.store c.conversion

/-- One operation of a session: its outcome, and the session afterwards. A result that cannot be
written is the operation's fault, but what the operation did stays done. A summary that cannot be
written leaves the operation without an outcome. -/
def step (session : Session) (request : Request) : Except Fault Outcome × Session :=
  let (result, after) := request.perform { session with log := [] }
  (after.summary.map fun summary ↦
      { result := result.bind (·.write after.store .full), log := after.log, summary },
    after)

/-- The outcomes of a list of operations, one after the other. -/
def run (session : Session) : List Request → Except Fault (List Outcome)
  | [] => .ok []
  | request :: rest => do
    let (outcome, after) := session.step request
    let first ← outcome
    let others ← after.run rest
    return first :: others

end WorkflowArtifacts.Session
