import WorkflowArtifacts.Store.Item

/-!
# Comparing items

Two items count as equal when they amount to the same: documents as documents, a tag as its text,
lists member by member, records when they are of one class and their fields are equal.

One and the same record or list equals itself without being looked into. Two different ones may
lead into each other forever through what was put in the place of fields; a comparison that has
gone too far into items within items is given up.
-/

namespace WorkflowArtifacts.Item

/-- How far a comparison goes into items within items. -/
def comparisonLimit : Nat := 900

/-- Whether two items count as equal, as far as `fuel` items within items allow to tell. -/
def sameWithin (s : Store) : (fuel : Nat) → Item → Item → Except Fault Bool
  | 0, _, _ => .error .endless
  | fuel + 1, a, b =>
    let sameInside := sameWithin s fuel
    if a.isSame b then .ok true
    else
      match a.document?, b.document?, a, b with
      | some j, some k, _, _ => .ok (j.alike k)
      | _, _, .entity e, .entity f => (e.content s).same sameInside (f.content s)
      | _, _, _, _ =>
        match a.members? s, b.members? s with
        | some xs, some ys =>
          if xs.length = ys.length then (xs.zip ys).allM fun (x, y) ↦ sameInside x y
          else .ok false
        | _, _ => .ok false

/-- Whether an item is a number's place without a number. -/
def isUndefined : Item → Bool
  | .data (.number .undefined) => true
  | _ => false

/-- Whether two items count as equal. What is no number equals nothing, though two things of which
it is a part may be equal. -/
def same (s : Store) (a b : Item) : Except Fault Bool :=
  if a.isUndefined then .ok false else a.sameWithin s comparisonLimit b

theorem isUndefined_of_isSame {a b : Item} (h : a.isSame b = true) : a.isUndefined = false := by
  cases a <;> first | rfl | simp [isSame] at h

theorem same_of_isSame (s : Store) {a b : Item} (h : a.isSame b = true) :
    a.same s b = .ok true := by
  simp [same, isUndefined_of_isSame h, comparisonLimit, sameWithin, h]

theorem same_entity_self (s : Store) (e : Entity) :
    (Item.entity e).same s (.entity e) = .ok true :=
  same_of_isSame s (by simp [isSame])

end WorkflowArtifacts.Item
