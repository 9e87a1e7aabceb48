import WorkflowArtifacts.Fault

/-!
# Environments

The variables that are set from outside, each a name with a text. Not every text can stand there:
the null character would end it early, an equals sign would end a name, and a name has at least one
character.

Variables are set one after the other. One that cannot be set stops this, but those before it stay
set, so the environment that was reached is returned beside the outcome.
-/

namespace WorkflowArtifacts

/-- The variables that are set, the latest in front. -/
structure Environment where
  /-- The names with their values. -/
  bindings : List (String × String)
  deriving DecidableEq, Repr, Inhabited

namespace Environment

/-- The environment without variables. -/
def empty : Environment := ⟨[]⟩

/-- The value of a variable, if it is set. -/
def get? (environment : Environment) (name : String) : Option String :=
  environment.bindings.lookup name

/-- The environment with a variable that has a new value. -/
def insert (environment : Environment) (name value : String) : Environment :=
  ⟨(name, value) :: environment.bindings⟩

/-- The text that a variable of some name can have as its value, or why there is none. The null
character is looked for first, and in the name as well as in the value. -/
def checked (name : String) : Json → Except Fault String
  | .text value =>
    if name.contains '\x00' || value.contains '\x00' then .error .nullCharacter
    else if name.contains '=' then .error .unusableName
    else if name.isEmpty then .error .emptyName
    else .ok value
  | other => .error (.notVariable other.nature)

/-- Sets variables in order, up to the first one that cannot be set. -/
def setAll (environment : Environment) : List (String × Json) → Except Fault Unit × Environment
  | [] => (.ok (), environment)
  | (name, value) :: rest =>
    match checked name value with
    | .ok text => (environment.insert name text).setAll rest
    | .error fault => (.error fault, environment)

/-- The environment of the given variables, all of which must be such as can be set. -/
def ofAssignments (assignments : List (String × Json)) : Except Fault Environment :=
  let (outcome, environment) := empty.setAll assignments
  outcome.map fun _ ↦ environment

@[simp] theorem get?_empty (name : String) : empty.get? name = none := rfl

theorem get?_insert (environment : Environment) (name value other : String) :
    (environment.insert name value).get? other =
      if other = name then some value else environment.get? other := by
  by_cases h : other = name
  · simp [get?, insert, h]
  · have : (other == name) = false := by simpa using h
    simp [get?, insert, List.lookup_cons, h, this]

end Environment

end WorkflowArtifacts
