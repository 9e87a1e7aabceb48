import WorkflowArtifacts.ContentModel.Basic
import WorkflowArtifacts.FormModule.Basic
import WorkflowArtifacts.Process.Basic
import WorkflowArtifacts.Settings

/-!
# Items

What an artifact key or a name can stand for: a plain document, the tag of an element, a stored
record, a list that belongs to a record, or a list of records put together on its own. A list that
belongs to a record is named by its owner, so that whoever holds it sees the list as it is at the
moment.

Records and their lists are held by reference, so two items are one and the same record or list
exactly when their references are equal; what they amount to is another matter.
-/

namespace WorkflowArtifacts

/-- A record of any class. Settings never change, so they stand for themselves. -/
inductive Entity where
  /-- A workflow definition. -/
  | definition (r : Ref Definition)
  /-- A process graph. -/
  | process (r : Ref Process)
  /-- An element of a process graph. -/
  | element (r : Ref Element)
  /-- A namespace. -/
  | modelNamespace (r : Ref ModelNamespace)
  /-- A content model. -/
  | contentModel (r : Ref ContentModel)
  /-- A parameter of a control. -/
  | controlParameter (r : Ref ControlParameter)
  /-- A control. -/
  | control (r : Ref Control)
  /-- A set. -/
  | formSet (r : Ref FormSet)
  /-- A field. -/
  | formField (r : Ref FormField)
  /-- A visibility. -/
  | visibility (r : Ref Visibility)
  /-- An appearance. -/
  | appearance (r : Ref Appearance)
  /-- A form. -/
  | form (r : Ref Form)
  /-- A configuration. -/
  | configuration (r : Ref Configuration)
  /-- A form module. -/
  | formModule (r : Ref FormModule)
  /-- Settings. -/
  | settings (value : Settings)
  deriving DecidableEq

/-- A list that belongs to a record. -/
inductive Listing where
  /-- The steps of a definition. -/
  | steps (owner : Ref Definition)
  /-- The elements of a process. -/
  | elements (owner : Ref Process)
  /-- The namespaces that a content model declares. -/
  | namespaces (owner : Ref ContentModel)
  /-- The namespaces that a content model imports. -/
  | imports (owner : Ref ContentModel)
  /-- The parameters of a control. -/
  | parameters (owner : Ref Control)
  /-- The fields that a visibility shows. -/
  | shown (owner : Ref Visibility)
  /-- The fields that a visibility hides. -/
  | hidden (owner : Ref Visibility)
  /-- The sets of an appearance. -/
  | formSets (owner : Ref Appearance)
  /-- The fields of an appearance. -/
  | formFields (owner : Ref Appearance)
  /-- The forms of a configuration. -/
  | forms (owner : Ref Configuration)
  /-- The configurations of a form module. -/
  | configurations (owner : Ref FormModule)
  deriving DecidableEq

/-- What an artifact key or a name can stand for. -/
inductive Item where
  /-- A plain document. -/
  | data (value : Json)
  /-- The tag of a kind of elements. -/
  | tag (kind : ElementKind)
  /-- A record. -/
  | entity (value : Entity)
  /-- A list that belongs to a record. -/
  | listing (value : Listing)
  /-- A list of records on its own. -/
  | group (members : List Entity)

instance : Inhabited Item := ⟨.data .null⟩

namespace Item

/-- Whether two items are the same record or the same list of a record. -/
def isSame : Item → Item → Bool
  | .entity a, .entity b => decide (a = b)
  | .listing a, .listing b => decide (a = b)
  | _, _ => false

/-- Whether an item is the absent value. -/
def isAbsent : Item → Bool
  | .data j => j.isNull
  | _ => false

end Item

end WorkflowArtifacts
