import WorkflowArtifacts.Schema.Issue

/-!
# Shapes of documents

What a class of documents looks like, as data: which fields a record has, in which order, under
which names, with which defaults, and what each field holds. Reading, writing and checking are
then single functions over shapes rather than a function for each class, and a law about them is
one induction.

A field has the name by which the library knows it. It may have a second name, used by the
serializer of the generated artifacts, which is accepted on reading as well and takes precedence
there.
-/

namespace WorkflowArtifacts.Schema

/-- The names of a record's field and what stands for it when it is left out. -/
structure FieldSpec where
  /-- The name by which the library knows the field. -/
  name : String
  /-- The serializer's name, where it has one of its own. -/
  serialName : Option String
  /-- The value of a field that is left out; a field without one is required. -/
  default : Option Json

mutual

/-- What a document looks like. -/
inductive Shape where
  /-- A string. -/
  | text
  /-- A truth value, or a number or word that stands for one. -/
  | flag
  /-- An object whose contents are not looked at. -/
  | document
  /-- One fixed text. -/
  | literal (tag : Tag)
  /-- The absent value or a document of the given shape. -/
  | nullable (inner : Shape)
  /-- An array of documents of the given shape. -/
  | list (item : Shape)
  /-- A record of the class `title`. -/
  | record (title : String) (fields : Fields)
  /-- A record of one of several classes, told apart by the text under `key`. -/
  | variants (key : String) (branches : Branches)

/-- The fields of a record, in order. -/
inductive Fields where
  /-- No fields. -/
  | nil
  /-- A field and those after it. -/
  | cons (spec : FieldSpec) (shape : Shape) (rest : Fields)

/-- The classes of a union, each with the tag that selects it. -/
inductive Branches where
  /-- No classes. -/
  | nil
  /-- A class and those after it. -/
  | cons (tag : Tag) (fields : Fields) (rest : Branches)

end

namespace FieldSpec

/-- The name under which a serializer writes the field. -/
def writtenName (spec : FieldSpec) : String := spec.serialName.getD spec.name

/-- The entry of an object that gives the field its value: the one under the serializer's name if
there is one, otherwise the one under the field's own name. -/
def find? (spec : FieldSpec) (entries : List (String × Json)) : Option (String × Json) :=
  let entryAt (key : String) := (entries.lookup key).map fun value ↦ (key, value)
  (spec.serialName.bind entryAt).or (entryAt spec.name)

end FieldSpec

namespace Fields

/-- The fields of a list, each a specification with its shape. -/
def ofList : List (FieldSpec × Shape) → Fields
  | [] => .nil
  | (spec, shape) :: rest => .cons spec shape (ofList rest)

/-- The specification of the field with a name. -/
def find? (name : String) : Fields → Option FieldSpec
  | .nil => none
  | .cons spec _ rest => if spec.name = name then some spec else rest.find? name

end Fields

namespace Branches

/-- The classes of a list, each a tag with its fields. -/
def ofList : List (Tag × Fields) → Branches
  | [] => .nil
  | (tag, fields) :: rest => .cons tag fields (ofList rest)

/-- The tags of a union in order. -/
def tags : Branches → List Tag
  | .nil => []
  | .cons tag _ rest => tag :: rest.tags

end Branches

/-! ## Kinds of fields -/

/-- A field that must be given. -/
def required (name : String) (shape : Shape) : FieldSpec × Shape := (⟨name, none, none⟩, shape)

/-- A field with a value of its own when left out. -/
def defaulted (name : String) (shape : Shape) (value : Json) : FieldSpec × Shape :=
  (⟨name, none, some value⟩, shape)

/-- A field that may be absent, left out or given as the absent value. -/
def optional (name : String) (shape : Shape) : FieldSpec × Shape :=
  defaulted name (.nullable shape) .null

/-- A field that lists documents, none when left out. -/
def listing (name : String) (item : Shape) : FieldSpec × Shape :=
  defaulted name (.list item) (.array [])

/-- The same field, written under a name of its own by the serializer. -/
def writtenAs (field : FieldSpec × Shape) (serialName : String) : FieldSpec × Shape :=
  ({ field.1 with serialName := some serialName }, field.2)

end WorkflowArtifacts.Schema
