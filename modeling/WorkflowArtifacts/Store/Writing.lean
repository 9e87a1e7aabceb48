import WorkflowArtifacts.Store.Item

/-!
# Writing items

What an item looks like in a style. A record is written by its class, the members of a list are
written one by one, and a document is written as it is.

Anything may stand in the place of a field:

* A record of another class is taken for a field there, so only what fields have as well is
  written of it, under the names that fields have.
* A tag has nothing in common with a field.
* Anything else stands in an open place, and is written by what it is.

## Open places

In an open place every value takes a level of the room, whatever it is, and so does everything in
it that stands in an open place in turn. The absent value stands there for a number that is not
finite.

A list in an open place may lead back to itself. So the way that led to an item is kept, and an
item that is met again on its own way cannot be written. Either bound alone ends the recursion; the
way tells which of the two faults it is.
-/

namespace WorkflowArtifacts

open Schema (Style)

/-- The record taken for a field: whatever fields have as well. -/
def Entity.asField (s : Store) (e : Entity) : Content :=
  .record .formField
    ((e.content s).fields.filter fun part ↦ (RecordClass.formField.fields.find? part.1).isSome)

namespace Item

/-- An item in the place of a field, where there is room for a number of levels. -/
def writeAsField (s : Store) (style : Style) (room : Nat)
    (writeOpen : Item → Except Fault Json) : Item → Except Fault Json
  | .entity e => (e.asField s).write style room writeOpen
  | .tag _ => .ok (.object [])
  | item => writeOpen item

/-- An item in an open place to which a way leads, where there is room for a number of levels. A
tag takes two of them, one for itself and one for its text. -/
def writeOpen (s : Store) (style : Style) : (room : Nat) → (way : List Item) → Item →
    Except Fault Json
  | 0, way, item => if way.any item.isSame then .error .circular else .error .tooDeep
  | room + 1, way, item =>
    let writeInside := writeOpen s style room (item :: way)
    if way.any item.isSame then .error .circular
    else
      match item with
      | .data j => if j.height ≤ room + 1 then .ok j.finite else .error .tooDeep
      | .tag kind => if 0 < room then .ok (.text kind.tag.value) else .error .tooDeep
      | .entity e => (e.content s).write style room (writeAsField s style room writeInside)
      | .listing l => .array <$> (l.members s).mapM writeInside
      | .group es => .array <$> es.mapM (writeInside ∘ .entity)

end Item

/-- A record, written in a style. -/
def Entity.write (s : Store) (style : Style) (e : Entity) : Except Fault Json :=
  let room := Schema.depthLimit
  (e.content s).write style room (Item.writeAsField s style room (Item.writeOpen s style room []))

namespace Item

/-- An item, written in a style, where lists stand in each other at most `fuel` times. -/
def writeWithin (s : Store) (style : Style) : (fuel : Nat) → Item → Except Fault Json
  | 0, _ => .error .circular
  | _, .data j => .ok j
  | _, .tag kind => .ok (.text kind.tag.value)
  | _, .entity e => e.write s style
  | fuel + 1, .listing l => .array <$> (l.members s).mapM (writeWithin s style fuel)
  | _, .group es => .array <$> es.mapM (·.write s style)

/-- An item, written in a style. A list stands in another one only by being put in the place of a
field, so those that stand in each other are at most one more than there are loose items, unless
one stands in itself. -/
def write (s : Store) (style : Style) (item : Item) : Except Fault Json :=
  item.writeWithin s style (s.loose.size + 2)

end Item

end WorkflowArtifacts
