import WorkflowArtifacts.Schema.Validation

/-!
# Rendering

Writing a document in normal form for somebody else: under the serializer's names or the
library's own, and with or without fields that are absent. Absence is judged field by field at
every depth of the shape, but never inside a document whose contents the shape leaves open.

A field may hold something that its shape would refuse, because it was assigned after validation.
Such a value is written as it is.

In what a shape leaves open, the absent value stands for a number that is not finite. It can be
written only up to a certain depth. The limit is on the levels below the last one that the shape
describes, whatever the shape itself is made of.
-/

namespace WorkflowArtifacts.Schema

/-- How a document is written. -/
structure Style where
  /-- Under the serializer's names instead of the library's own. -/
  serialNames : Bool
  /-- Without fields that hold the absent value. -/
  omitAbsent : Bool
  deriving DecidableEq, Repr

namespace Style

/-- Every field under the serializer's name. -/
def full : Style := ⟨true, false⟩

/-- The name under which a field is written. -/
def nameOf (style : Style) (spec : FieldSpec) : String :=
  if style.serialNames then spec.writtenName else spec.name

end Style

mutual

/-- A document of the given shape, written in a style. -/
def Shape.render (style : Style) : Shape → Json → Json
  | .document, j => j.finite
  | .nullable inner, j => if j.isNull then j else inner.render style j
  | .list item, j =>
    match j with
    | .array items => .array (items.map (item.render style))
    | _ => j
  | .record _ fields, j =>
    match j with
    | .object entries => .object (fields.render style entries)
    | _ => j
  | .variants key branches, j =>
    match j with
    | .object entries => .object (branches.render style (j.get key) entries)
    | _ => j
  | _, j => j

/-- The entries of a record, written in a style. -/
def Fields.render (style : Style) : Fields → List (String × Json) → List (String × Json)
  | .nil, _ => []
  | .cons spec shape rest, entries =>
    let value := (entries.lookup spec.name).getD .null
    let others := rest.render style entries
    if style.omitAbsent && value.isNull then others
    else (style.nameOf spec, shape.render style value) :: others

/-- The entries of an object that says it is `found`, written in a style. -/
def Branches.render (style : Style) :
    Branches → (found : Json) → List (String × Json) → List (String × Json)
  | .nil, _, entries => entries
  | .cons tag fields rest, found, entries =>
    if tag.isWritten found then fields.render style entries
    else rest.render style found entries

end

/-! ## Depth -/

/-- How many levels can be written where the shape leaves everything open. -/
def depthLimit : Nat := 255

mutual

/-- How many levels a document in normal form has below those that its shape describes. -/
def Shape.openDepth : Shape → Json → Nat
  | .document, j => Json.heightEntries j.entries
  | .nullable inner, j => if j.isNull then 0 else inner.openDepth j
  | .list item, j => (j.items.map item.openDepth).foldl max 0
  | .record _ fields, j => fields.openDepth j
  | .variants key branches, j => branches.openDepth (j.get key) j
  | _, _ => 0

/-- How many levels a record has below those that its fields describe. -/
def Fields.openDepth : Fields → Json → Nat
  | .nil, _ => 0
  | .cons spec shape rest, j => max (shape.openDepth (j.get spec.name)) (rest.openDepth j)

/-- How many levels a record that says it is `found` has below those that its class describes. -/
def Branches.openDepth : Branches → (found : Json) → Json → Nat
  | .nil, _, _ => 0
  | .cons tag fields rest, found, j =>
    if tag.isWritten found then fields.openDepth j else rest.openDepth found j

end

end WorkflowArtifacts.Schema
