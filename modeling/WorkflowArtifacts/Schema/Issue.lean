import WorkflowArtifacts.Json.Display
import WorkflowArtifacts.Text.Gap

/-!
# What can be wrong with a document

An issue is a place in a document together with the reason why the value there is refused. The
reasons form a closed list; their machine-readable code and their wording are functions of the
reason alone, so a statement about issues never has to mention text.
-/

namespace WorkflowArtifacts.Schema

/-- One step from a document to a part of it. -/
inductive Step where
  /-- The value under a key of an object. -/
  | key (name : String)
  /-- An item of an array, counted from zero. -/
  | index (position : Nat)
  deriving DecidableEq, Repr

/-- A member of an enumeration: the text that stands for it in documents, and the name under which
messages mention it. -/
structure Tag where
  /-- The text in documents. -/
  value : String
  /-- The name in messages. -/
  label : String
  deriving DecidableEq, Repr

/-- A tag as messages mention it. -/
def Tag.mention (tag : Tag) : String := s!"<{tag.label}: '{tag.value}'>"

/-- Why a value is refused. -/
inductive Reason where
  /-- A string is required. -/
  | notText
  /-- A truth value is required and nothing of this kind can stand for one. -/
  | notFlag
  /-- A truth value is required; a value of this kind might stand for one, this one does not. -/
  | unreadableFlag
  /-- An array is required. -/
  | notList
  /-- An object with free contents is required. -/
  | notDictionary
  /-- An object that describes a record of the named class is required. -/
  | notRecord (title : String)
  /-- An object is required, because its kind is to be read from it. -/
  | notTagged
  /-- The object lacks a required entry. -/
  | missing
  /-- One fixed text is required. -/
  | otherLiteral (tag : Tag)
  /-- The object does not say of which kind it is. -/
  | noTag (key : String)
  /-- The object is of an unknown kind. -/
  | unknownTag (key found : String) (known : List Tag)
  deriving DecidableEq, Repr

namespace Reason

/-- The code of a reason. -/
def code : Reason → String
  | .notText => "string_type"
  | .notFlag => "bool_type"
  | .unreadableFlag => "bool_parsing"
  | .notList => "list_type"
  | .notDictionary => "dict_type"
  | .notRecord _ => "model_type"
  | .notTagged => "model_attributes_type"
  | .missing => "missing"
  | .otherLiteral _ => "literal_error"
  | .noTag _ => "union_tag_not_found"
  | .unknownTag .. => "union_tag_invalid"

/-- The pattern of the wording for objects of an unknown kind. -/
def unknownTagPattern : String :=
  "Input tag '\x7btag\x7d' found using \x7bdiscriminator\x7d does not match any of the " ++
    "expected tags: \x7bexpected_tags\x7d"

/-- The wording of a reason. What an object says about its kind is put into the pattern before the
known kinds are, so they are spelled out in its place as well if it holds their mark. -/
def message : Reason → String
  | .notText => "Input should be a valid string"
  | .notFlag => "Input should be a valid boolean"
  | .unreadableFlag => "Input should be a valid boolean, unable to interpret input"
  | .notList => "Input should be a valid list"
  | .notDictionary => "Input should be a valid dictionary"
  | .notRecord title => s!"Input should be a valid dictionary or instance of {title}"
  | .notTagged => "Input should be a valid dictionary or object to extract fields from"
  | .missing => "Field required"
  | .otherLiteral tag => "Input should be " ++ tag.mention
  | .noTag key => s!"Unable to extract tag using discriminator '{key}'"
  | .unknownTag key found known =>
    Text.fillGaps
      [("\x7bdiscriminator\x7d", s!"'{key}'"), ("\x7btag\x7d", found),
        ("\x7bexpected_tags\x7d", ", ".intercalate (known.map Tag.mention))]
      unknownTagPattern

end Reason

/-- A refused value: where it stands and why it is refused. For a missing entry the place is that
of the entry. -/
structure Issue where
  /-- The way from the outermost document to the place. -/
  path : List Step
  /-- Why the value is refused. -/
  reason : Reason
  deriving DecidableEq, Repr

namespace Issue

/-- An issue with the document itself. -/
def here (reason : Reason) : Issue := ⟨[], reason⟩

/-- The issue seen from a document in which the former one stands at `step`. -/
def under (step : Step) (issue : Issue) : Issue := { issue with path := step :: issue.path }

@[simp] theorem path_here (reason : Reason) : (here reason).path = [] := rfl

@[simp] theorem path_under (step : Step) (issue : Issue) :
    (issue.under step).path = step :: issue.path := rfl

@[simp] theorem reason_under (step : Step) (issue : Issue) :
    (issue.under step).reason = issue.reason := rfl

end Issue

end WorkflowArtifacts.Schema
