import WorkflowArtifacts.Json.Equivalence
import WorkflowArtifacts.Schema.Shape

/-!
# Validation

A document is checked against a shape by listing its issues; it is accepted when there are none,
and then brought into normal form: exactly the fields of the shape, in order and under their own
names, with defaults filled in and truth values written as such. All issues are reported, fields
in declaration order and items in array order.

Both functions follow the shape, not the document, so entries that no field asks for are never
looked at.
-/

namespace WorkflowArtifacts.Schema

/-! ## Truth values -/

/-- The words for true. -/
def truthWords : List String := ["1", "true", "t", "yes", "y", "on"]

/-- The words for false. -/
def falsityWords : List String := ["0", "false", "f", "no", "n", "off"]

/-- The truth value that a word stands for, whatever the case of its letters. -/
def wordFlag (word : String) : Except Reason Bool :=
  let small := String.ofList (word.toList.map Char.toLower)
  if truthWords.contains small then .ok true
  else if falsityWords.contains small then .ok false
  else .error .unreadableFlag

/-- The truth value that a whole number stands for. A number outside the range of `readable` ones
is not even considered. -/
def numberFlag (readable : Int → Bool) (n : Int) : Except Reason Bool :=
  if n = 0 then .ok false
  else if n = 1 then .ok true
  else if readable n then .error .unreadableFlag
  else .error .notFlag

/-- The truth value that a document stands for. Whole numbers count as readable up to 64 bits with
sign; a decimal has to stay strictly inside that range. -/
def readFlag : Json → Except Reason Bool
  | .bool b => .ok b
  | .text word => wordFlag word
  | .number (.integer n) => numberFlag (fun n ↦ -Int.pow 2 63 ≤ n && n < Int.pow 2 63) n
  | .number (.decimal d) =>
    match d.quantity.whole? with
    | some n => numberFlag (fun n ↦ -Int.pow 2 63 < n && n < Int.pow 2 63) n
    | none => .error .notFlag
  | _ => .error .notFlag

/-! ## Issues -/

/-- Whether a document is the text of a tag. -/
def Tag.isWritten (tag : Tag) : Json → Bool
  | .text s => s == tag.value
  | _ => false

mutual

/-- The issues of a document that should have the given shape. -/
def Shape.issues : Shape → Json → List Issue
  | .text, j =>
    match j with
    | .text _ => []
    | _ => [.here .notText]
  | .flag, j =>
    match readFlag j with
    | .ok _ => []
    | .error reason => [.here reason]
  | .document, j =>
    match j with
    | .object _ => []
    | _ => [.here .notDictionary]
  | .literal tag, j => if tag.isWritten j then [] else [.here (.otherLiteral tag)]
  | .nullable inner, j => if j.isNull then [] else inner.issues j
  | .list item, j =>
    match j with
    | .array items =>
      items.zipIdx.flatMap fun (x, i) ↦ (item.issues x).map (·.under (.index i))
    | _ => [.here .notList]
  | .record title fields, j =>
    match j with
    | .object entries => fields.issues entries
    | _ => [.here (.notRecord title)]
  | .variants key branches, j =>
    match j with
    | .object entries =>
      match entries.lookup key with
      | some found => branches.issues key branches.tags found entries
      | none => [.here (.noTag key)]
    | _ => [.here .notTagged]

/-- The issues of an object's entries that should give the fields of a record. -/
def Fields.issues : Fields → List (String × Json) → List Issue
  | .nil, _ => []
  | .cons spec shape rest, entries =>
    (match spec.find? entries with
      | some (key, value) => (shape.issues value).map (·.under (.key key))
      | none =>
        match spec.default with
        | some _ => []
        | none => [.under (.key spec.writtenName) (.here .missing)])
      ++ rest.issues entries

/-- The issues of an object that should be of one of several classes, of which it says `found`;
`known` are the tags of the whole union. -/
def Branches.issues : Branches → (key : String) → (known : List Tag) → (found : Json) →
    List (String × Json) → List Issue
  | .nil, key, known, found, _ => [.here (.unknownTag key found.display known)]
  | .cons tag fields rest, key, known, found, entries =>
    if tag.isWritten found then (fields.issues entries).map (·.under (.key tag.value))
    else rest.issues key known found entries

end

/-! ## Normal form -/

mutual

/-- The normal form of a document without issues. -/
def Shape.normal : Shape → Json → Json
  | .text, j => j
  | .flag, j =>
    match readFlag j with
    | .ok b => .bool b
    | .error _ => j
  | .document, j => j
  | .literal _, j => j
  | .nullable inner, j => if j.isNull then j else inner.normal j
  | .list item, j =>
    match j with
    | .array items => .array (items.map item.normal)
    | _ => j
  | .record _ fields, j =>
    match j with
    | .object entries => .object (fields.normal entries)
    | _ => j
  | .variants key branches, j =>
    match j with
    | .object entries => .object (branches.normal (j.get key) entries)
    | _ => j

/-- The normal entries of a record. -/
def Fields.normal : Fields → List (String × Json) → List (String × Json)
  | .nil, _ => []
  | .cons spec shape rest, entries =>
    (spec.name,
      match spec.find? entries with
      | some (_, value) => shape.normal value
      | none => spec.default.getD .null)
      :: rest.normal entries

/-- The normal entries of an object that says it is `found`. -/
def Branches.normal : Branches → (found : Json) → List (String × Json) → List (String × Json)
  | .nil, _, entries => entries
  | .cons tag fields rest, found, entries =>
    if tag.isWritten found then fields.normal entries else rest.normal found entries

end

/-! ## Validation -/

/-- A refused document: what it should have been, and its issues. -/
structure Failure where
  /-- The class or union that the document was checked against. -/
  title : String
  /-- What is wrong, in order. -/
  issues : List Issue
  deriving DecidableEq, Repr

/-- The normal form of a document that should have the given shape, or its issues. -/
def Shape.validate (shape : Shape) (title : String) (j : Json) : Except Failure Json :=
  match shape.issues j with
  | [] => .ok (shape.normal j)
  | issues => .error ⟨title, issues⟩

end WorkflowArtifacts.Schema
