import WorkflowArtifacts.Store.Entity

/-!
# Items in a store

What an item is made of at the moment: the members of a list, the text of a tag, and the parts that
are reached by the name of a field or by a position.
-/

namespace WorkflowArtifacts

/-- The item that an appearance lists as a field. -/
def FieldEntry.item (s : Store) : FieldEntry → Item
  | .field r => .entity (.formField r)
  | .loose r => s.looseItem r

/-- The items of a list at the moment. -/
def Listing.members (s : Store) : Listing → List Item
  | .steps r => (s.get r).steps.map .data
  | .elements r => ((s.get r).elements.getD []).map (.entity ∘ .element)
  | .namespaces r => (s.get r).namespaces.map (.entity ∘ .modelNamespace)
  | .imports r => (s.get r).imports.map (.entity ∘ .modelNamespace)
  | .parameters r => (s.get r).parameters.map (.entity ∘ .controlParameter)
  | .shown r => (s.get r).shown.map .data
  | .hidden r => (s.get r).hidden.map .data
  | .formSets r => (s.get r).sets.map (.entity ∘ .formSet)
  | .formFields r => (s.get r).fields.map (·.item s)
  | .forms r => (s.get r).forms.map (.entity ∘ .form)
  | .configurations r => (s.get r).configurations.map (.entity ∘ .configuration)

namespace Item

/-- The word for an item's kind in messages about items of the wrong kind. -/
def nature (s : Store) : Item → String
  | .data j => j.nature
  | .tag _ => "FlowElementType"
  | .entity e => (e.recordClass s).name
  | .listing _ | .group _ => "list"

/-- The members of an item, if it is a list. -/
def members? (s : Store) : Item → Option (List Item)
  | .data (.array xs) => some (xs.map .data)
  | .listing l => some (l.members s)
  | .group es => some (es.map .entity)
  | _ => none

/-- The text that an item is, if it is one. -/
def text? : Item → Option String
  | .data j => j.text?
  | .tag kind => some kind.tag.value
  | _ => none

/-- The document that an item is, if it is one. A tag counts as its text. -/
def document? : Item → Option Json
  | .data j => some j
  | .tag kind => some (.text kind.tag.value)
  | _ => none

end Item

/-! ## Parts -/

/-- The item that a field of a record holds, where it is no plain document. -/
def Entity.linked? (s : Store) : Entity → (field : String) → Option Item
  | .definition r, "steps" => some (.listing (.steps r))
  | .process r, "flow_elements" =>
    some (if (s.get r).elements.isSome then .listing (.elements r) else .data .null)
  | .element r, "type" => some (.tag (s.get r).kind)
  | .contentModel r, "namespaces" => some (.listing (.namespaces r))
  | .contentModel r, "imports" => some (.listing (.imports r))
  | .control r, "control_parameters" => some (.listing (.parameters r))
  | .formField r, "control" =>
    some (match (s.get r).control with
      | some r => .entity (.control r)
      | none => .data .null)
  | .visibility r, "show_field_elements" => some (.listing (.shown r))
  | .visibility r, "hide_field_elements" => some (.listing (.hidden r))
  | .appearance r, "form_sets" => some (.listing (.formSets r))
  | .appearance r, "form_fields" => some (.listing (.formFields r))
  | .form r, "form_field_visibility" => some (.entity (.visibility (s.get r).visibility))
  | .form r, "form_appearance" => some (.entity (.appearance (s.get r).appearance))
  | .configuration r, "forms" => some (.listing (.forms r))
  | .formModule r, "configurations" => some (.listing (.configurations r))
  | _, _ => none

/-- The plain document that a field of a record holds. -/
def Entity.plainField? (s : Store) (e : Entity) (name : String) : Option Json :=
  ((e.content s).field? name).bind Content.document?

/-- The member of a list at a position; a negative position counts from the end. -/
def memberAt? {α : Type} (members : List α) (position : Int) : Option α :=
  let fromStart := if position < 0 then position + members.length else position
  if fromStart < 0 then none else members[fromStart.toNat]?

/-- The positions that sequences can have: 64 bits with a sign. -/
def IsPosition (n : Int) : Prop := -Int.pow 2 63 ≤ n ∧ n < Int.pow 2 63

instance (n : Int) : Decidable (IsPosition n) := inferInstanceAs (Decidable (_ ∧ _))

/-- The member at a position of a list that stands for a sequence of the given kind. -/
def requireAt {α : Type} (sequence : String) (members : List α) (position : Int) :
    Except Fault α :=
  if IsPosition position then
    match memberAt? members position with
    | some member => .ok member
    | none => .error (.outOfRange sequence)
  else .error .noPosition

namespace Item

/-- The part of an item under a name: a field of a record, or what a tag consists of. -/
def field (s : Store) (item : Item) (name : String) : Except Fault Item :=
  let part : Option Item :=
    match item, name with
    | .entity e, name => (e.linked? s name).or ((e.plainField? s name).map .data)
    | .tag kind, "value" => some (.data (.text kind.tag.value))
    | .tag kind, "name" => some (.data (.text kind.tag.value.toUpper))
    | _, _ => none
  match part with
  | some part => .ok part
  | none => .error (.noPart (item.nature s) name)

/-- The part of an item at a position: a member of a list or a character of a text. Objects have
entries, but none by position. -/
def atPosition (s : Store) (item : Item) (position : Int) : Except Fault Item :=
  match item.members? s, item.text?, item with
  | some members, _, _ => requireAt "list" members position
  | none, some text, _ =>
    requireAt "string" (text.toList.map fun c ↦ .data (.text c.toString)) position
  | none, none, .data (.object _) => .error (.missingPosition position)
  | none, none, _ => .error (.notIndexable (item.nature s))

end Item

end WorkflowArtifacts
