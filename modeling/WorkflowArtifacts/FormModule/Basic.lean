import WorkflowArtifacts.Json.Basic
import WorkflowArtifacts.Store.Table

/-!
# Form modules

A form module collects the forms of a process. It consists of configurations, each with the
condition under which it applies and the forms that it brings; a form says which fields are shown
and how they appear, in which set and with which control.

All parts refer to their parts by reference, so that one field may stand in two forms and forms
can be completed after they were put into a configuration.
-/

namespace WorkflowArtifacts

/-- A parameter of a control. -/
structure ControlParameter where
  /-- The name. -/
  name : String
  /-- The value. -/
  value : String
  deriving DecidableEq, Inhabited

/-- A control, which displays a field. -/
structure Control where
  /-- The template that draws it. -/
  template : Option String
  /-- Its parameters. -/
  parameters : List (Ref ControlParameter)
  deriving DecidableEq, Inhabited

/-- A set, which groups fields. -/
structure FormSet where
  /-- The id. -/
  id : String
  /-- How the set is set apart. -/
  appearance : Option String
  /-- The message that labels it. -/
  labelId : Option String
  /-- The template that lays it out. -/
  template : Option String
  /-- The set around it. -/
  parent : Option String
  deriving DecidableEq, Inhabited

/-- A field of a form. -/
structure FormField where
  /-- The id of the property it shows. -/
  id : Option String
  /-- The message that labels it. -/
  labelId : Option String
  /-- The set it belongs to. -/
  set : Option String
  /-- Whether it can only be read. -/
  readOnly : Option Bool
  /-- Whether it must be filled in. -/
  mandatory : Option Bool
  /-- A text that explains it. -/
  help : Option String
  /-- The control that displays it. -/
  control : Option (Ref Control)
  deriving DecidableEq, Inhabited

/-- Which fields of a form are visible. Ids of shown fields can be added without a check, so they
are any documents; read from a document, they are strings. -/
structure Visibility where
  /-- The ids of the fields that are shown. -/
  shown : List Json
  /-- The ids of the fields that are hidden. -/
  hidden : List Json
  deriving Inhabited

/-- The place of something loose: something that was put where a field belongs. -/
structure LooseRef where
  /-- The position among everything loose. -/
  index : Nat
  deriving DecidableEq

/-- What an appearance lists as a field. Fields can be added without a check, so something else may
stand in the place of one. -/
inductive FieldEntry where
  /-- A field. -/
  | field (r : Ref FormField)
  /-- Something else. -/
  | loose (r : LooseRef)
  deriving DecidableEq

/-- How the fields of a form appear. -/
structure Appearance where
  /-- The sets. -/
  sets : List (Ref FormSet)
  /-- The fields. -/
  fields : List FieldEntry
  deriving DecidableEq, Inhabited

/-- A form. -/
structure Form where
  /-- The id. -/
  id : Option String
  /-- Which fields are visible. -/
  visibility : Ref Visibility
  /-- How the fields appear. -/
  appearance : Ref Appearance
  deriving DecidableEq, Inhabited

/-- A configuration: forms, and when they apply. -/
structure Configuration where
  /-- How the condition is compared. -/
  evaluator : Option String
  /-- The condition. -/
  condition : Option String
  /-- The forms. -/
  forms : List (Ref Form)
  deriving DecidableEq, Inhabited

/-- A form module. -/
structure FormModule where
  /-- The id. -/
  id : Option String
  /-- The configurations. -/
  configurations : List (Ref Configuration)
  deriving DecidableEq, Inhabited

end WorkflowArtifacts
