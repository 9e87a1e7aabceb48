import WorkflowArtifacts.Conversion.Basic
import WorkflowArtifacts.Identifier.Values
import WorkflowArtifacts.Vocabulary

/-!
# The id that artifacts go by

All artifacts of a conversion are named after one id. A definition that has an id keeps it,
and artifacts go by its sanitized form. A definition without one is given a fresh id, which its
process gets too; from then on it has one, so an id is generated at most once.
-/

namespace WorkflowArtifacts.Conversion

open Build

/-- The id that is generated from a unique token. -/
def idOfToken (token : String) : String :=
  Identifier.sanitize (Vocabulary.generatedIdLead ++ token)

/-- Generates an id and gives it to the process and to the definition. -/
def generateId : ConversionM String := do
  let id := idOfToken (← takeToken)
  let process ← requireProcess "id"
  update process fun p ↦ { p with id := .text id }
  update (← current).definition fun d ↦ { d with id := .text id }
  note .info .artifactId s!"Generated process id '{id}'"
  return id

/-- The id under which artifacts are made: the definition's in sanitized form, or a generated
one. -/
def artifactId : ConversionM String := do
  match (← currentDefinition).id with
  | .null => generateId
  | given =>
    let id ← ExceptT.mk (pure (Identifier.sanitizeValue given))
    if given.display != id then
      note .debug .artifactId s!"Sanitized process id '{given.display}' to '{id}'"
    return id

end WorkflowArtifacts.Conversion
