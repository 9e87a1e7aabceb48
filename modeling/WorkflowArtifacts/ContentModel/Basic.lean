import WorkflowArtifacts.Store.Table
import WorkflowArtifacts.Vocabulary

/-!
# Content models

A content model declares the types of a process under a namespace of its own and imports the
namespaces it builds on.
-/

namespace WorkflowArtifacts

/-- A namespace: its URI and the short name that stands for it in qualified names. -/
structure ModelNamespace where
  /-- The URI. -/
  uri : String
  /-- The short name. -/
  qualifier : String
  deriving DecidableEq, Inhabited

/-- A content model. -/
structure ContentModel where
  /-- The qualified name. -/
  name : Option String
  /-- The description, taken from the workflow definition. -/
  description : Option String
  /-- The author. -/
  author : Option String
  /-- The version. -/
  version : Option String
  /-- The namespaces it declares. -/
  namespaces : List (Ref ModelNamespace)
  /-- The namespaces it imports. -/
  imports : List (Ref ModelNamespace)
  deriving DecidableEq, Inhabited

/-- A name qualified by the short name of its namespace. -/
def qualifiedName (qualifier name : String) : String := qualifier ++ ":" ++ name

/-- The namespaces that every generated content model imports, in order: the dictionary, the
content and the workflow namespace. -/
def requiredImports : List ModelNamespace :=
  [⟨Vocabulary.dictionaryUri, Vocabulary.dictionaryQualifier⟩,
    ⟨Vocabulary.contentUri, Vocabulary.contentQualifier⟩,
    ⟨Vocabulary.workflowUri, Vocabulary.workflowQualifier⟩]

end WorkflowArtifacts
