import WorkflowArtifacts.Conversion.Run
import WorkflowArtifacts.Session.Participants

/-!
# Sessions

A session is a sequence of operations on a common store. It has at most one current conversion,
remembers items under names, and goes on after a fault with everything that was done up to it.
-/

namespace WorkflowArtifacts

/-- The conversion that a session works on, with those who take part in its run. -/
structure Session.Current where
  /-- The conversion. -/
  conversion : Conversion
  /-- The listeners, in the order in which they are called. -/
  listeners : List Listener
  /-- The step converters, in the order in which they are called. -/
  converters : List StepConverter

/-- The state of a session. -/
structure Session where
  /-- All records. -/
  store : Store
  /-- The unique tokens. -/
  tokens : TokenSupply
  /-- The environment. -/
  environment : Environment
  /-- The items that names stand for, newest first. -/
  names : List (String × Item)
  /-- The current conversion. -/
  current : Option Session.Current
  /-- The log of the operation in progress. -/
  log : List LogEntry

/-- A session before its first operation. -/
def Session.start (environment : Environment) (tokens : List String) : Session where
  store := .empty
  tokens := ⟨tokens, 0⟩
  environment := environment
  names := []
  current := none
  log := []

/-- A computation of a session. -/
abbrev SessionM := ExceptT Fault (StateM Session)

namespace Session

variable {α : Type}

/-- Building as part of a session. -/
def build (action : Build α) : SessionM α := fun st ↦
  let (result, store) := action st.store
  (.ok result, { st with store })

/-- Building that may fail as part of a session. -/
def checkedBuild (action : CheckedBuild α) : SessionM α := fun st ↦
  let (result, store) := action st.store
  (result, { st with store })

instance : MonadLift Build SessionM := ⟨build⟩

instance : MonadLift CheckedBuild SessionM := ⟨checkedBuild⟩

/-- The state at the moment. -/
def state : SessionM Session := fun st ↦ (.ok st, st)

/-- Changes the state. -/
def change (f : Session → Session) : SessionM Unit := fun st ↦ (.ok (), f st)

/-- An outcome as a computation. -/
def ofExcept (outcome : Except Fault α) : SessionM α := ExceptT.mk (pure outcome)

/-- The current conversion, of which the named part is about to be used. -/
def requireCurrent (part : String) : SessionM Current := do
  match (← state).current with
  | some current => return current
  | none => throw (.noPart Json.null.nature part)

/-- Takes part in the current conversion. -/
def participate (part : String) (action : ConversionM α) : SessionM α := fun st ↦
  match st.current with
  | none => (.error (.noPart Json.null.nature part), st)
  | some current =>
    let (result, after) := action ⟨st.store, current.conversion, st.tokens, st.log⟩
    (result,
      { st with
        store := after.store
        tokens := after.tokens
        log := after.log
        current := some { current with conversion := after.conversion } })

/-- Takes a unique token and does without it. -/
def wasteToken : SessionM Unit := change fun st ↦ { st with tokens := st.tokens.next.2 }

/-- Makes a conversion the current one. -/
def begin (current : Current) : SessionM Unit :=
  change fun st ↦ { st with current := some current }

/-- Gives a name to an item. -/
def giveName (name : String) (item : Item) : SessionM Unit :=
  change fun st ↦ { st with names := (name, item) :: st.names }

/-- The item that a name stands for. -/
def itemNamed (name : String) : SessionM Item := do
  match (← state).names.lookup name with
  | some item => return item
  | none => throw (.missingEntry name)

/-! ## Targets -/

/-- The item at which a target starts. -/
def Origin.resolve : Origin → SessionM Item
  | .formModule =>
    participate "get_artifact" (Conversion.requireArtifact Vocabulary.formModuleKey)
  | .contentModel =>
    participate "get_artifact" (Conversion.requireArtifact Vocabulary.contentModelKey)
  | .process => do
    match (← requireCurrent "process").conversion.process with
    | some r => return .entity (.process r)
    | none => return .data .null
  | .definition => do
    return .entity (.definition (← requireCurrent "workflow_definition").conversion.definition)
  | .named name => itemNamed name

/-- The part of an item that a step leads to. -/
def Selector.apply (selector : Selector) (item : Item) : SessionM Item := do
  let store := (← state).store
  match selector with
  | .field name => ofExcept (item.field store name)
  | .position n => ofExcept (item.atPosition store n)

/-- The item that a target leads to. -/
def Target.resolve (target : Target) : SessionM Item := do
  target.path.foldlM (fun item selector ↦ selector.apply item) (← target.origin.resolve)

/-- The item that a source stands for, where a document stands for itself. -/
def Source.resolve : Source → SessionM Item
  | .given document => return .data document
  | .existing target => target.resolve

/-- The record that an item should be, of which the named part is about to be used. -/
def expect {β : Type} (select : Entity → Option β) (part : String) (item : Item) : SessionM β := do
  let found :=
    match item with
    | .entity e => select e
    | _ => none
  match found with
  | some value => return value
  | none => throw (.noPart (item.nature (← state).store) part)

end Session

end WorkflowArtifacts
