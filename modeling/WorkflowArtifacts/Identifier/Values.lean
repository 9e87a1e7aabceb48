import WorkflowArtifacts.Fault
import WorkflowArtifacts.Identifier

/-!
# Identifiers from values of any kind

Ids reach the program as documents, which need not be texts. Only a text has an identifier; what
is empty is no identifier, whatever its kind, and recognising looks at nothing but texts beyond
that.
-/

namespace WorkflowArtifacts

/-- Whether a document counts as nothing: absent, false, zero, or without contents. -/
def Json.isEmptyValue : Json → Bool
  | .null => true
  | .bool b => !b
  | .number (.integer n) => n == 0
  | .number (.decimal d) => d.size.mantissa == 0
  | .number .undefined => false
  | .text s => s.isEmpty
  | .array items => items.isEmpty
  | .object entries => entries.isEmpty

namespace Identifier

/-- The identifier for a value that should be a text. -/
def sanitizeValue : Json → Except Fault String
  | .text raw => .ok (sanitize raw)
  | j => .error (.noPart j.nature "lower")

/-- Only a text has an identifier. -/
theorem sanitizeValue_eq_ok_iff {value : Json} {id : String} :
    sanitizeValue value = .ok id ↔ ∃ raw, value = .text raw ∧ sanitize raw = id := by
  cases value <;> simp [sanitizeValue]

/-- Whether a value is an identifier. -/
def isValidValue (j : Json) : Except Fault Bool :=
  if j.isEmptyValue then .ok false
  else
    match j with
    | .text s => .ok (isValid s)
    | other => .error (.notText other.nature)

/-- Of texts, the empty one needs no special treatment: it is no identifier anyway. -/
theorem isValidValue_text (text : String) : isValidValue (.text text) = .ok (isValid text) := by
  by_cases h : text = ""
  · subst h
    rfl
  · have hsome : (Json.text text).isEmptyValue = false := by
      rw [Json.isEmptyValue, String.isEmpty_eq_false_iff]
      exact h
    rw [isValidValue, hsome]
    rfl

/-- A value's identifier beside what recognising says about either. -/
structure Sanitized where
  /-- The identifier. -/
  id : String
  /-- Whether the value was an identifier already. -/
  validBefore : Bool
  /-- Whether the identifier is recognised as one. -/
  validAfter : Bool
  /-- The identifier of the identifier. -/
  again : String
  deriving DecidableEq, Repr

/-- Sanitizes a value and looks at the outcome. -/
def examine (raw : Json) : Except Fault Sanitized := do
  let id ← sanitizeValue raw
  let validBefore ← isValidValue raw
  return { id, validBefore, validAfter := isValid id, again := sanitize id }

end Identifier

end WorkflowArtifacts
