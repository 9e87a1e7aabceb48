import WorkflowArtifacts.Json.Equivalence
import WorkflowArtifacts.Store.Loading

/-!
# Building form modules

Additions to the parts of a form module. Each appends one part at the end of one list of its
owner; showing a field is the exception, since a field that is shown already is not shown again.

Additions come in two layers. The first appends a part that exists. The second makes the part
from arguments of any kind, which are checked like a document, so it may be refused; then nothing
is appended.
-/

namespace WorkflowArtifacts

open Build

/-! ## Appending existing parts -/

/-- Appends a configuration to a form module. -/
def FormModule.append (owner : Ref FormModule) (part : Ref Configuration) : Build Unit :=
  update owner fun m ↦ { m with configurations := m.configurations ++ [part] }

/-- Appends a form to a configuration. -/
def Configuration.append (owner : Ref Configuration) (part : Ref Form) : Build Unit :=
  update owner fun c ↦ { c with forms := c.forms ++ [part] }

/-- Appends a set to an appearance. -/
def Appearance.appendSet (owner : Ref Appearance) (part : Ref FormSet) : Build Unit :=
  update owner fun a ↦ { a with sets := a.sets ++ [part] }

/-- Appends an entry to the list of an appearance's fields. -/
def Appearance.appendEntry (owner : Ref Appearance) (entry : FieldEntry) : Build Unit :=
  update owner fun a ↦ { a with fields := a.fields ++ [entry] }

/-- Appends a field to an appearance. -/
def Appearance.appendField (owner : Ref Appearance) (part : Ref FormField) : Build Unit :=
  Appearance.appendEntry owner (.field part)

/-- Appends an item to the list of an appearance's fields, whether or not it is one. -/
def Appearance.appendItem (owner : Ref Appearance) (item : Item) : Build Unit := do
  match item with
  | .entity (.formField part) => Appearance.appendField owner part
  | other => Appearance.appendEntry owner (.loose (← allocLoose other))

/-- Appends a parameter to a control. -/
def Control.append (owner : Ref Control) (part : Ref ControlParameter) : Build Unit :=
  update owner fun c ↦ { c with parameters := c.parameters ++ [part] }

/-- The visibility that also shows a field. -/
def Visibility.showing (v : Visibility) (field : Json) : Visibility :=
  if field.isAmong v.shown then v else { v with shown := v.shown ++ [field] }

/-- Shows a field. -/
def Visibility.addShown (owner : Ref Visibility) (field : Json) : Build Unit :=
  update owner (·.showing field)

/-! ## Making a part and appending it -/

/-- Makes a configuration and appends it to a form module. -/
def FormModule.addConfiguration (owner : Ref FormModule) (evaluator condition : Json) :
    CheckedBuild (Ref Configuration) := do
  let document ←
    validated .configuration (.object [("evaluator", evaluator), ("condition", condition)])
  let part ← Configuration.load document
  FormModule.append owner part
  return part

/-- Makes a form and appends it to a configuration. -/
def Configuration.addForm (owner : Ref Configuration) (id : Json) : CheckedBuild (Ref Form) := do
  let document ← validated .form (.object [("id", id)])
  let part ← Form.load document
  Configuration.append owner part
  return part

/-- Makes a set and appends it to an appearance. -/
def Appearance.addSet (owner : Ref Appearance) (id appearance labelId template : Json) :
    CheckedBuild (Ref FormSet) := do
  let document ← validated .formSet
    (.object
      [("id", id), ("appearance", appearance), ("label_id", labelId), ("template", template)])
  let part ← FormSet.load document
  Appearance.appendSet owner part
  return part

/-- Makes a field and appends it to an appearance. -/
def Appearance.addField (owner : Ref Appearance) (id labelId set : Json) :
    CheckedBuild (Ref FormField) := do
  let document ←
    validated .formField (.object [("id", id), ("label_id", labelId), ("set", set)])
  let part ← FormField.load document
  Appearance.appendField owner part
  return part

/-- Makes a parameter and appends it to a control. -/
def Control.addParameter (owner : Ref Control) (name value : Json) :
    CheckedBuild (Ref ControlParameter) := do
  let document ← validated .controlParameter (.object [("name", name), ("value", value)])
  let part ← ControlParameter.load document
  Control.append owner part
  return part

end WorkflowArtifacts
