import WorkflowArtifacts.Json.Basic

/-!
# The log of a conversion

What a conversion reports about itself: records of four levels, each from one part of the program,
and the marks that tracing listeners leave between them. The log is part of a conversion's
outcome, so it is data, in the order in which the entries were made.
-/

namespace WorkflowArtifacts

/-- How grave a record is. -/
inductive LogLevel where
  /-- Of interest when searching for a fault. -/
  | debug
  /-- The normal course of things. -/
  | info
  /-- Something that may be wrong. -/
  | warning
  /-- Something that went wrong. -/
  | error
  deriving DecidableEq, Repr

/-- The part of the program that makes a record. -/
inductive LogSource where
  /-- The choice of the id that artifacts go by. -/
  | artifactId
  /-- The building of content models. -/
  | contentModel
  /-- The building of form modules. -/
  | formModule
  /-- The supply of start forms. -/
  | startForm
  /-- The listener that sets up the artifacts. -/
  | artifactSetup
  /-- The run of a conversion. -/
  | run
  deriving DecidableEq, Repr

/-- The two phases around the conversion of the steps. -/
inductive Phase where
  /-- Before the first step. -/
  | before
  /-- After the last step. -/
  | after
  deriving DecidableEq, Repr

/-- An entry of the log. -/
inductive LogEntry where
  /-- A record. -/
  | record (level : LogLevel) (source : LogSource) (message : String)
  /-- The mark of a tracing listener. -/
  | trace (phase : Phase) (message : Json)

end WorkflowArtifacts
