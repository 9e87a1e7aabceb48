import WorkflowArtifacts.Log
import WorkflowArtifacts.Schema.Catalogue

/-!
# Operations of a session

What can be asked of a session, as data. An operation that works on a stored item names it by a
target: where to start and which parts to go through from there.
-/

namespace WorkflowArtifacts.Session

/-- One step from an item to a part of it. -/
inductive Selector where
  /-- The part that a field holds. -/
  | field (name : String)
  /-- The member of a list at a position; a negative one counts from the end. -/
  | position (n : Int)
  deriving DecidableEq, Repr

/-- Where a target starts. -/
inductive Origin where
  /-- The form module among the artifacts. -/
  | formModule
  /-- The content model among the artifacts. -/
  | contentModel
  /-- The process of the conversion. -/
  | process
  /-- The definition of the conversion. -/
  | definition
  /-- The item that a name stands for. -/
  | named (name : String)
  deriving DecidableEq, Repr

/-- An item, given by a way to it. -/
structure Target where
  /-- Where the way starts. -/
  origin : Origin
  /-- The steps from there. -/
  path : List Selector
  deriving DecidableEq, Repr

/-- Something given as a document or as an item that exists. -/
inductive Source where
  /-- A document. -/
  | given (document : Json)
  /-- An item that exists. -/
  | existing (target : Target)

/-- The definition that a conversion starts from. -/
inductive DefinitionSource where
  /-- A document. -/
  | given (document : Json)
  /-- The definition of the current conversion. -/
  | same

/-- What a simple listener does. -/
inductive ListenerAction where
  /-- Rejects something. -/
  | fail (message : Json)
  /-- Gives up the conversion. -/
  | abort (message : Json)
  /-- Leaves a mark in the log. -/
  | trace (message : Json)
  /-- Stores an artifact. -/
  | putArtifact (key : String) (value : Json)
  /-- Asks for the form module. -/
  | requireFormModule
  /-- Gives start forms. -/
  | supplyStartForms
  /-- Gives the process another id. -/
  | setProcessId (id : Json)

/-- A listener, as it is asked for. -/
inductive ListenerRequest where
  /-- The listener that sets up the artifacts, with settings or those of the environment, of whose
  hooks only some are called. -/
  | artifactSetup (settings : Json) (before after : Bool)
  /-- The listener that does nothing. -/
  | idle
  /-- A listener that does one thing in one phase. -/
  | simple (phase : Phase) (action : ListenerAction)

/-- The step converters that can be asked for. -/
inductive ConverterName where
  /-- Adds start events. -/
  | start
  /-- Adds user tasks. -/
  | task
  /-- Adds elements of any kind. -/
  | element
  /-- Adds configurations with a form. -/
  | config
  /-- Stops the run. -/
  | fail
  deriving DecidableEq, Repr

/-- All step converters, in the order in which they are called when none are asked for. -/
def ConverterName.all : List ConverterName := [.start, .task, .element, .config, .fail]

/-- What can be asked of a session. -/
inductive Operation where
  /-- Begins a conversion. -/
  | newConversion (definition : DefinitionSource) (listeners : List ListenerRequest)
      (converters : List ConverterName)
  /-- Begins a conversion with the listener that sets up the artifacts and nobody else. -/
  | defaultConversion (definition : DefinitionSource) (settings : Json)
  /-- Replaces the environment by one with the given variables. -/
  | setEnvironment (assignments : List (String × Json))
  /-- Gives the conversion another process, or none. -/
  | setProcess (process : Json)
  /-- Gives the conversion a process without a list of elements. -/
  | setMalformedProcess (id : Json)
  /-- Gives the process another id. -/
  | setProcessId (id : Json)
  /-- Gives the definition another id. -/
  | setDefinitionId (id : Json)
  /-- Adds a new element to the process. -/
  | addElement (element : Json)
  /-- Adds an element of the process once more. -/
  | addElementAgain (position : Int)
  /-- Gives a start event another form key. -/
  | assignFormKey (position : Int) (formKey : Json)
  /-- Lists the start events of the process. -/
  | startEvents
  /-- Checks the graph of the process. -/
  | checkGraph
  /-- Determines the id under which artifacts are made. -/
  | artifactId
  /-- Generates an id. -/
  | generateId
  /-- Makes the content model. -/
  | makeContentModel (processId author version : Json)
  /-- Makes the form module. -/
  | makeFormModule (processId : Json)
  /-- Gives start forms. -/
  | supplyStartForms
  /-- Calls a hook of one of the listeners. -/
  | hook (phase : Phase) (position : Int)
  /-- Runs the conversion. -/
  | run
  /-- Stores an artifact. -/
  | putArtifact (key : String) (source : Source)
  /-- Looks up an artifact. -/
  | getArtifact (key : String)
  /-- Looks up the form module. -/
  | getFormModule
  /-- Looks up the content model. -/
  | getContentModel
  /-- Looks up the short name of the content model's namespace. -/
  | getQualifier
  /-- Makes a record. -/
  | newRecord (recordClass : RecordClass) (data : Json)
  /-- Compares two items. -/
  | equal (a b : Target)
  /-- Looks up an item. -/
  | get (target : Target)
  /-- Writes an item in a style. -/
  | dump (target : Target) (style : Schema.Style)
  /-- Adds a configuration to a form module. -/
  | addConfiguration (target : Target) (evaluator condition : Json)
  /-- Adds a form to a configuration. -/
  | addForm (target : Target) (formId : Json)
  /-- Adds the details form to a configuration. -/
  | addDetailsForm (target : Target)
  /-- Shows a field. -/
  | addShown (target : Target) (field : Json)
  /-- Adds a set to an appearance. -/
  | addSet (target : Target) (id appearance labelId template : Json)
  /-- Adds a new field to an appearance. -/
  | addField (target : Target) (id labelId set : Json)
  /-- Adds a field to an appearance, or an existing item in the place of one. -/
  | appendField (target : Target) (field : Source)
  /-- Adds a parameter to a control. -/
  | addParameter (target : Target) (name value : Json)

/-- An operation, and the name to be given to its result. -/
structure Request where
  /-- The operation. -/
  operation : Operation
  /-- The name, if one is to be given. -/
  name : Option String

end WorkflowArtifacts.Session
