import WorkflowArtifacts.Json.Quantity

/-!
# Documents without infinite numbers

A number may be too large for any quantity, or none at all. Where such numbers have no place, the
absent value stands for them; everything else in the document stays.
-/

namespace WorkflowArtifacts

/-- Whether a number stands for a finite quantity. -/
def Number.isFinite : Number → Bool
  | .integer _ => true
  | .decimal d => d.isFinite
  | .undefined => false

namespace Json

mutual

/-- The document with the absent value in the place of every number that is not finite. -/
def finite : Json → Json
  | .number n => if n.isFinite then .number n else .null
  | .array xs => .array (finiteItems xs)
  | .object es => .object (finiteEntries es)
  | j => j

/-- The items with the absent value in the place of every number that is not finite. -/
def finiteItems : List Json → List Json
  | [] => []
  | x :: xs => x.finite :: finiteItems xs

/-- The entries with the absent value in the place of every number that is not finite. -/
def finiteEntries : List (String × Json) → List (String × Json)
  | [] => []
  | (key, x) :: rest => (key, x.finite) :: finiteEntries rest

end

@[simp] theorem finite_null : finite .null = .null := rfl

@[simp] theorem finite_bool (b : Bool) : finite (.bool b) = .bool b := rfl

@[simp] theorem finite_text (s : String) : finite (.text s) = .text s := rfl

@[simp] theorem finite_int (n : Int) : finite (.int n) = .int n := rfl

theorem finiteItems_eq_map (xs : List Json) : finiteItems xs = xs.map finite := by
  induction xs with
  | nil => rfl
  | cons x xs ih => simp [finiteItems, ih]

theorem finiteEntries_eq_map (es : List (String × Json)) :
    finiteEntries es = es.map fun e ↦ (e.1, e.2.finite) := by
  induction es with
  | nil => rfl
  | cons e es ih => simp [finiteEntries, ih]

end Json

end WorkflowArtifacts
