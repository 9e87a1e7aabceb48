import WorkflowArtifacts.Schema.Validation

/-!
# Faults

Why an operation stops. A fault is a cause, and its wording is a function of the cause. Two causes
and everything wrapped into a third are *conversion faults*: they are meant for whoever started a
conversion and pass through a run unchanged, whereas any other fault inside a run is wrapped.
-/

namespace WorkflowArtifacts

/-- Why an operation stops. -/
inductive Fault where
  /-- An artifact was asked for that nobody has stored. -/
  | missingArtifact (key : String)
  /-- There is no process whose start events could be given forms. -/
  | noProcess
  /-- A listener or a step converter gave up the conversion. -/
  | aborted (message : String)
  /-- A run stopped because of another fault. -/
  | failed (cause : Fault)
  /-- A document was refused. -/
  | invalid (failure : Schema.Failure)
  /-- A value was rejected, with a message. -/
  | rejected (message : String)
  /-- There is no entry under a key, in a step whose converter needs it or among the names. -/
  | missingEntry (key : String)
  /-- An object was asked for an entry by position. -/
  | missingPosition (position : Int)
  /-- A value of the given nature was asked for a part it does not have. -/
  | noPart (nature part : String)
  /-- A value of the given nature was to be gone through item by item. -/
  | notIterable (nature : String)
  /-- A value of the given nature was asked for an item by position. -/
  | notIndexable (nature : String)
  /-- A sequence of the given kind was asked for an item beyond its ends. -/
  | outOfRange (sequence : String)
  /-- A position is too large to be one of any sequence. -/
  | noPosition
  /-- A value of the given nature stands where a text is needed. -/
  | notText (nature : String)
  /-- What stands where a logging level is needed is neither a number nor a text. -/
  | notLevel
  /-- A variable's name or value holds the character that ends a text. -/
  | nullCharacter
  /-- A variable's name holds the character that ends a name. -/
  | unusableName
  /-- A variable's name has no characters. -/
  | emptyName
  /-- A value of the given nature was to be a variable's. -/
  | notVariable (nature : String)
  /-- A document is nested too deeply to be written. -/
  | tooDeep
  /-- Something cannot be written because it is a part of itself. -/
  | circular
  /-- A comparison leads ever deeper. -/
  | endless
  deriving Repr

namespace Fault

/-- Whether a fault is meant for whoever started the conversion. -/
def isConversionFault : Fault → Bool
  | .missingArtifact _ | .noProcess | .aborted _ | .failed _ => true
  | _ => false

/-- The wording of a fault. The issues of a refused document are not spelled out; a fixed word
stands for them. -/
def message : Fault → String
  | .missingArtifact key => s!"No '{key}' artifact found in conversion"
  | .noProcess => "Conversion has no process to enrich"
  | .aborted text => text
  | .failed cause => "Failed to convert workflow definition: " ++ cause.message
  | .invalid _ => "<ValidationError>"
  | .rejected text => text
  | .missingEntry key => Text.quote key
  | .missingPosition position => toString position
  | .noPart nature part => s!"'{nature}' object has no attribute '{part}'"
  | .notIterable nature => s!"'{nature}' object is not iterable"
  | .notIndexable nature => s!"'{nature}' object is not subscriptable"
  | .outOfRange sequence => s!"{sequence} index out of range"
  | .noPosition => "cannot fit 'int' into an index-sized integer"
  | .notText nature => s!"expected string or bytes-like object, got '{nature}'"
  | .notLevel => ""
  | .nullCharacter => "embedded null byte"
  | .unusableName => "illegal environment variable name"
  | .emptyName => "[Errno 22] Invalid argument"
  | .notVariable nature => s!"str expected, not {nature}"
  | .tooDeep => "Maximum serialization depth exceeded"
  | .circular => "Circular reference detected (id repeated)"
  | .endless => "maximum recursion depth exceeded in comparison"

/-- The reading of validation outcomes as outcomes of operations. -/
def ofValidation {α : Type} : Except Schema.Failure α → Except Fault α
  | .ok value => .ok value
  | .error failure => .error (.invalid failure)

end Fault

end WorkflowArtifacts
