import WorkflowArtifacts.Fault
import WorkflowArtifacts.Schema.Catalogue

/-!
# Reading a document and writing it again

What a document of a class amounts to once it has been read: its normal form, written in a style.
The document may be refused, and one that is accepted may still be too deep to be written.
-/

namespace WorkflowArtifacts.RecordClass

open Schema (Style)

/-- A document of a class in normal form, written in a style, unless it is too deep. -/
def write (c : RecordClass) (style : Style) (document : Json) : Except Fault Json :=
  if c.shape.openDepth document ≤ Schema.depthLimit then .ok (c.render style document)
  else .error .tooDeep

/-- A document of a class, read and written again in a style. -/
def examine (c : RecordClass) (style : Style) (data : Json) : Except Fault Json := do
  let document ← Fault.ofValidation (c.validate data)
  c.write style document

theorem write_eq_ok_iff {c : RecordClass} {style : Style} {document written : Json} :
    c.write style document = .ok written ↔
      c.shape.openDepth document ≤ Schema.depthLimit ∧ c.render style document = written := by
  unfold write
  split
  · next h => simp [h]
  · next h => simp [h]

end WorkflowArtifacts.RecordClass
