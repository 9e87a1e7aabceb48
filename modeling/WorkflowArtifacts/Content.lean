import WorkflowArtifacts.Fault
import WorkflowArtifacts.Item
import WorkflowArtifacts.Json.Equivalence
import WorkflowArtifacts.Json.Finite
import WorkflowArtifacts.Schema.Catalogue

/-!
# Contents

What a record amounts to at one moment, with the contents of its parts in the places of
references. Contents can be written in a style and compared.

A content is a finite tree, since it stops at what was put in the place of a field: such an item
is only named. What becomes of it is left to a function that a content is written or compared
with, so everything here is by recursion on the tree.

## Depth

What a class asks for can always be written. Documents that stand where another was asked for, and
those that a class leaves open, can be written only as far as there is room: each of their levels
takes one, counted from the content around them. In the writing of either, the absent value stands
for a number that is not finite.
-/

namespace WorkflowArtifacts

open Schema (Style)

/-- What something amounts to at one moment. -/
inductive Content where
  /-- A document as it is asked for. -/
  | plain (value : Json)
  /-- A document where another one was asked for, with `above` levels between it and the content
  around it. -/
  | foreign (above : Nat) (value : Json)
  /-- An object with any entries, where such an object is asked for. -/
  | entries (entries : List (String × Json))
  /-- A list. -/
  | list (items : List Content)
  /-- A record of a class, with its fields in order under the library's names. -/
  | record (recordClass : RecordClass) (fields : List (String × Content))
  /-- Something that was put in the place of a field. -/
  | entry (item : Item)

namespace Content

/-- The document that content is, if it is one. -/
def document? : Content → Option Json
  | .plain j | .foreign _ j => some j
  | .entries es => some (.object es)
  | _ => none

/-- Whether this is the absent value. -/
def isAbsent (content : Content) : Bool := content.document?.any Json.isNull

/-- The fields of a record; nothing else has any. -/
def fields : Content → List (String × Content)
  | .record _ fields => fields
  | _ => []

/-- The field of a record under a name. -/
def field? (content : Content) (name : String) : Option Content := content.fields.lookup name

/-! ## Writing -/

mutual

/-- Content, written in a style where there is room for a number of levels. -/
def write (style : Style) (room : Nat) (writeEntry : Item → Except Fault Json) :
    Content → Except Fault Json
  | .plain j => .ok j
  | .foreign above j => if above + j.height ≤ room then .ok j.finite else .error .tooDeep
  | .entries es =>
    if Json.heightEntries es ≤ room then .ok (.object (Json.finiteEntries es))
    else .error .tooDeep
  | .list xs => .array <$> writeItems style room writeEntry xs
  | .record c fields => .object <$> writeFields style room writeEntry c fields
  | .entry item => writeEntry item

/-- The items of a list, written one by one. -/
def writeItems (style : Style) (room : Nat) (writeEntry : Item → Except Fault Json) :
    List Content → Except Fault (List Json)
  | [] => .ok []
  | x :: xs => do
    let first ← x.write style room writeEntry
    let others ← writeItems style room writeEntry xs
    return first :: others

/-- The fields of a record of a class, written one by one. -/
def writeFields (style : Style) (room : Nat) (writeEntry : Item → Except Fault Json)
    (c : RecordClass) : List (String × Content) → Except Fault (List (String × Json))
  | [] => .ok []
  | (name, x) :: rest =>
    if style.omitAbsent && x.isAbsent then writeFields style room writeEntry c rest
    else do
      let value ← x.write style room writeEntry
      let others ← writeFields style room writeEntry c rest
      return (c.writtenName style name, value) :: others

end

/-! ## Comparing -/

mutual

/-- Whether two contents count as equal: records when they are of one class and their fields are
equal, lists of one length member by member, documents as documents. -/
def same (sameEntry : Item → Item → Except Fault Bool) : Content → Content → Except Fault Bool
  | .list xs, b =>
    match b with
    | .list ys => if xs.length = ys.length then sameItems sameEntry xs ys else .ok false
    | _ => .ok false
  | .record c xs, b =>
    match b with
    | .record d ys => if c = d then sameFields sameEntry xs ys else .ok false
    | _ => .ok false
  | .entry x, b =>
    match b with
    | .entry y => sameEntry x y
    | _ => .ok false
  | a, b =>
    match a.document?, b.document? with
    | some j, some k => .ok (j.alike k)
    | _, _ => .ok false

/-- Whether the items of two lists count as equal, one by one. -/
def sameItems (sameEntry : Item → Item → Except Fault Bool) :
    List Content → List Content → Except Fault Bool
  | [], _ => .ok true
  | x :: xs, ys =>
    match ys with
    | [] => .ok false
    | y :: rest => do
      if ← x.same sameEntry y then sameItems sameEntry xs rest else return false

/-- Whether the fields of two records of one class count as equal, one by one. -/
def sameFields (sameEntry : Item → Item → Except Fault Bool) :
    List (String × Content) → List (String × Content) → Except Fault Bool
  | [], _ => .ok true
  | (_, x) :: xs, ys =>
    match ys with
    | [] => .ok false
    | (_, y) :: rest => do
      if ← x.same sameEntry y then sameFields sameEntry xs rest else return false

end

end Content

end WorkflowArtifacts
