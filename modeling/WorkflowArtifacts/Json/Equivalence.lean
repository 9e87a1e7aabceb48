import WorkflowArtifacts.Json.Quantity

/-!
# When two documents count as equal

Equality of documents is looser than equality of what was written. Numbers are compared by the
quantity they stand for, so `1` and `1.0` are equal; a truth value counts as the number one or
zero; objects are equal when they hold equal values under the same keys, in whatever order.
Everything else is compared part by part.
-/

namespace WorkflowArtifacts

namespace Json

/-- The quantity that a number or a truth value stands for in comparisons. -/
def quantity? : Json → Option Quantity
  | .bool b => some (.ofInt (if b then 1 else 0))
  | .number n => n.quantity?
  | _ => none

/-- Two values that hold no others are equal. -/
def sameScalar (a b : Json) : Bool :=
  match a.quantity?, b.quantity? with
  | some x, some y => x.same y
  | none, none =>
    match a, b with
    | .null, .null | .number .undefined, .number .undefined => true
    | .text s, .text t => s == t
    | _, _ => false
  | _, _ => false

mutual

/-- Whether two documents count as equal. -/
def alike : Json → Json → Bool
  | .array xs, b =>
    match b with
    | .array ys => alikeItems xs ys
    | _ => false
  | .object xs, b =>
    match b with
    | .object ys => xs.length == ys.length && alikeEntries xs ys
    | _ => false
  | a, b => sameScalar a b

/-- Whether two arrays have equal items in the same order. -/
def alikeItems : List Json → List Json → Bool
  | [], ys => ys.isEmpty
  | x :: xs, ys =>
    match ys with
    | [] => false
    | y :: rest => alike x y && alikeItems xs rest

/-- Whether each entry of the first list has an equal value under its key in the second. -/
def alikeEntries : List (String × Json) → List (String × Json) → Bool
  | [], _ => true
  | (key, x) :: rest, ys =>
    (match ys.lookup key with
      | some y => alike x y
      | none => false) && alikeEntries rest ys

end

/-- Whether some document of the list counts as equal to this one. -/
def isAmong (j : Json) (documents : List Json) : Bool := documents.any (·.alike j)

end Json

end WorkflowArtifacts
