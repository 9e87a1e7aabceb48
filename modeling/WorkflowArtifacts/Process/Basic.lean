import WorkflowArtifacts.Schema.Catalogue
import WorkflowArtifacts.Store.Table

/-!
# Workflow definitions and process graphs

What a conversion starts from and the graph it produces. A graph is a list of references to
elements, because the same element may be listed more than once and a start event may be given a
form after it was listed.

The id, the name and the description of a definition, the id of a process and the form key of a
start event can be assigned without a check, so they hold any document. Read from a document, each
is a string or absent.
-/

namespace WorkflowArtifacts

/-- A workflow definition. Its steps are left to the step converters. -/
structure Definition where
  /-- The id, absent until one is assigned. -/
  id : Json
  /-- The name. -/
  name : Json
  /-- The description. -/
  description : Json
  /-- The steps in order, each an object. -/
  steps : List Json
  deriving Inhabited

/-- Where a process starts. -/
structure StartEvent where
  /-- The id. -/
  id : String
  /-- The name. -/
  name : Option String
  /-- The key of the form to fill in at the start, absent if none was chosen. -/
  formKey : Json
  /-- Who starts the process. -/
  initiator : Option String
  deriving Inhabited

/-- An element that has no more than a name: an end event or a gateway. -/
structure PlainElement where
  /-- The id. -/
  id : String
  /-- The name. -/
  name : Option String
  deriving DecidableEq, Inhabited

/-- Work for a person. -/
structure UserTask where
  /-- The id. -/
  id : String
  /-- The name. -/
  name : Option String
  /-- The key of the form to fill in. -/
  formKey : Option String
  /-- Who is to do the work. -/
  assignee : Option String
  deriving DecidableEq, Inhabited

/-- Work for a script. -/
structure ScriptTask where
  /-- The id. -/
  id : String
  /-- The name. -/
  name : Option String
  /-- The language of the script. -/
  scriptFormat : String
  /-- The script. -/
  script : Option String
  deriving DecidableEq, Inhabited

/-- A connection from one element to another. -/
structure SequenceFlow where
  /-- The id. -/
  id : String
  /-- The id of the element it leaves. -/
  sourceRef : String
  /-- The id of the element it reaches. -/
  targetRef : String
  /-- When it is taken. -/
  condition : Option String
  deriving DecidableEq, Inhabited

/-- An element of a process graph. -/
inductive Element where
  /-- Where the process starts. -/
  | startEvent (event : StartEvent)
  /-- Where the process ends. -/
  | endEvent (event : PlainElement)
  /-- Work for a person. -/
  | userTask (task : UserTask)
  /-- Work for a script. -/
  | scriptTask (task : ScriptTask)
  /-- A connection between two elements. -/
  | sequenceFlow (flow : SequenceFlow)
  /-- A gateway through which all branches are taken. -/
  | parallelGateway (gateway : PlainElement)
  /-- A gateway through which one branch is taken. -/
  | exclusiveGateway (gateway : PlainElement)
  deriving Inhabited

namespace Element

/-- The kind of an element. -/
def kind : Element → ElementKind
  | .startEvent _ => .startEvent
  | .endEvent _ => .endEvent
  | .userTask _ => .userTask
  | .scriptTask _ => .scriptTask
  | .sequenceFlow _ => .sequenceFlow
  | .parallelGateway _ => .parallelGateway
  | .exclusiveGateway _ => .exclusiveGateway

/-- The id of an element. -/
def id : Element → String
  | .startEvent e => e.id
  | .endEvent e => e.id
  | .userTask e => e.id
  | .scriptTask e => e.id
  | .sequenceFlow e => e.id
  | .parallelGateway e => e.id
  | .exclusiveGateway e => e.id

/-- The start event, if the element is one. -/
def startEvent? : Element → Option StartEvent
  | .startEvent e => some e
  | _ => none

/-- The sequence flow, if the element is one. -/
def sequenceFlow? : Element → Option SequenceFlow
  | .sequenceFlow e => some e
  | _ => none

/-- The element with another form key, if it is a start event. -/
def withFormKey (key : Json) : Element → Element
  | .startEvent e => .startEvent { e with formKey := key }
  | e => e

end Element

/-- A process graph. -/
structure Process where
  /-- The id. -/
  id : Json
  /-- The name. -/
  name : Option String
  /-- The elements in order; a malformed process has no list of them. -/
  elements : Option (List (Ref Element))
  deriving Inhabited

end WorkflowArtifacts
