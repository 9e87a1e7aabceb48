import WorkflowArtifacts.Environment
import WorkflowArtifacts.Schema.Catalogue
import WorkflowArtifacts.Text.Case

/-!
# Settings

What a conversion can be told from outside: the author and the version that content models carry,
and how much is logged. Settings are given as a document or taken from the environment.
-/

namespace WorkflowArtifacts

/-- The settings of a conversion. -/
structure Settings where
  /-- The name of the logging level. -/
  logLevel : String
  /-- The author of content models. -/
  modelAuthor : Option String
  /-- The version of content models. -/
  modelVersion : Option String
  deriving DecidableEq, Repr, Inhabited

namespace Settings

/-- The settings that a document in normal form describes. -/
def ofDocument (j : Json) : Settings where
  logLevel := ((j.get "log_level").text?).getD ""
  modelAuthor := (j.get "model_author").text?
  modelVersion := (j.get "model_version").text?

/-- The settings that a document describes, or the fault of its being refused. -/
def read (j : Json) : Except Fault Settings := do
  let document ← Fault.ofValidation (RecordClass.settings.validate j)
  return ofDocument document

/-- The settings that the environment gives. The name of the level is taken in upper case, and an
empty author is no author. -/
def ofEnvironment (environment : Environment) : Settings where
  logLevel := Text.upperString ((environment.get? "KICKSTART_LOG_LEVEL").getD "INFO")
  modelAuthor :=
    match environment.get? "KICKSTART_MODEL_AUTHOR" with
    | some "" => none
    | author => author
  modelVersion := some ((environment.get? "KICKSTART_MODEL_VERSION").getD "1.0")

/-- Settings given as a document, or those of the environment where none are given. -/
def readOr (environment : Environment) (given : Json) : Except Fault Settings :=
  if given.isNull then .ok (ofEnvironment environment) else read given

end Settings

end WorkflowArtifacts
