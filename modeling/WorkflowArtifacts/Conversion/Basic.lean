import WorkflowArtifacts.Log
import WorkflowArtifacts.Store.Item
import WorkflowArtifacts.Store.Loading

/-!
# Conversions

A conversion holds the workflow definition it starts from, the process graph once there is one,
and the artifacts that were generated along the way, each under a key. Everybody who takes part
in a conversion works on the same state: the store, the conversion, the supply of unique tokens
and the log.

A computation on that state may stop at a fault. The state then stays as it was at that moment;
nothing is taken back.
-/

namespace WorkflowArtifacts

/-! ## Artifacts -/

/-- Artifacts by key, in the order in which the keys were first used. -/
structure Registry where
  /-- The keys with their artifacts. -/
  entries : List (String × Item)

namespace Registry

/-- No artifacts. -/
def empty : Registry := ⟨[]⟩

/-- The artifact under a key; a key that was never used stands for the absent value. -/
def get (registry : Registry) (key : String) : Item :=
  (registry.entries.lookup key).getD (.data .null)

/-- The entries with an artifact put under a key, in place of the former one if there is one. -/
def replaceIn : List (String × Item) → String → Item → List (String × Item)
  | [], key, item => [(key, item)]
  | (other, former) :: rest, key, item =>
    if other = key then (key, item) :: rest else (other, former) :: replaceIn rest key item

/-- The artifacts with one put under a key. -/
def put (registry : Registry) (key : String) (item : Item) : Registry :=
  ⟨replaceIn registry.entries key item⟩

/-- The keys in use. -/
def keys (registry : Registry) : List String := registry.entries.map (·.1)

theorem lookup_replaceIn_self (entries : List (String × Item)) (key : String) (item : Item) :
    (replaceIn entries key item).lookup key = some item := by
  induction entries with
  | nil => simp [replaceIn]
  | cons entry rest ih =>
    obtain ⟨other, former⟩ := entry
    rw [replaceIn]
    split
    · simp
    · next h =>
      have hne : (key == other) = false := beq_false_of_ne (Ne.symm h)
      simp [List.lookup_cons, hne, ih]

theorem lookup_replaceIn_of_ne (entries : List (String × Item)) {key other : String}
    (h : other ≠ key) (item : Item) :
    (replaceIn entries key item).lookup other = entries.lookup other := by
  have hne : (other == key) = false := beq_false_of_ne h
  induction entries with
  | nil => simp [replaceIn, List.lookup_cons, hne]
  | cons entry rest ih =>
    obtain ⟨first, former⟩ := entry
    rw [replaceIn]
    split
    · next hk => subst hk; simp [List.lookup_cons, hne]
    · simp [List.lookup_cons, ih]

@[simp] theorem get_put_self (registry : Registry) (key : String) (item : Item) :
    (registry.put key item).get key = item := by
  simp [get, put, lookup_replaceIn_self]

theorem get_put_of_ne (registry : Registry) {key other : String} (h : other ≠ key)
    (item : Item) : (registry.put key item).get other = registry.get other := by
  simp [get, put, lookup_replaceIn_of_ne _ h]

end Registry

/-! ## State -/

/-- A conversion. -/
structure Conversion where
  /-- The definition it starts from. -/
  definition : Ref Definition
  /-- The process graph, once there is one. -/
  process : Option (Ref Process)
  /-- The artifacts. -/
  artifacts : Registry

/-- A conversion that has not begun. -/
def Conversion.start (definition : Ref Definition) : Conversion := ⟨definition, none, .empty⟩

/-- The supply of unique tokens: those at hand, and how many had to be made up since. -/
structure TokenSupply where
  /-- The tokens at hand, in the order in which they are handed out. -/
  atHand : List String
  /-- How many tokens were made up. -/
  madeUp : Nat
  deriving DecidableEq, Repr

namespace TokenSupply

/-- The `n`-th token that is made up: a unique id of the fourth version that ends in the number
`n`, with zeros in front up to twelve digits. -/
def makeUp (n : Nat) : String :=
  let digits := toString n
  "00000000-0000-4000-8000-" ++ String.ofList (List.replicate (12 - digits.length) '0') ++ digits

/-- The next token, and the supply without it. -/
def next : TokenSupply → String × TokenSupply
  | ⟨token :: rest, n⟩ => (token, ⟨rest, n⟩)
  | ⟨[], n⟩ => (makeUp (n + 1), ⟨[], n + 1⟩)

end TokenSupply

namespace Conversion

/-- Everything that those who take part in a conversion read and write. -/
structure State where
  /-- All records. -/
  store : Store
  /-- The conversion. -/
  conversion : Conversion
  /-- The unique tokens. -/
  tokens : TokenSupply
  /-- The log, oldest entry first. -/
  log : List LogEntry

end Conversion

/-- A computation by somebody who takes part in a conversion. -/
abbrev ConversionM := ExceptT Fault (StateM Conversion.State)

namespace Conversion

variable {α : Type}

/-- Building as part of a conversion. -/
def build (action : Build α) : ConversionM α := fun st ↦
  let (result, store) := action st.store
  (.ok result, { st with store })

/-- Building that may fail as part of a conversion. -/
def checkedBuild (action : CheckedBuild α) : ConversionM α := fun st ↦
  let (result, store) := action st.store
  (result, { st with store })

instance : MonadLift Build ConversionM := ⟨build⟩

instance : MonadLift CheckedBuild ConversionM := ⟨checkedBuild⟩

/-- Appends an entry to the log. -/
def enter (entry : LogEntry) : ConversionM Unit := fun st ↦
  (.ok (), { st with log := st.log ++ [entry] })

/-- Appends a record to the log. -/
def note (level : LogLevel) (source : LogSource) (message : String) : ConversionM Unit :=
  enter (.record level source message)

/-- Takes a unique token. -/
def takeToken : ConversionM String := fun st ↦
  let (token, tokens) := st.tokens.next
  (.ok token, { st with tokens })

/-- The conversion at the moment. -/
def current : ConversionM Conversion := fun st ↦ (.ok st.conversion, st)

/-- Gives the conversion another process. -/
def setProcess (process : Option (Ref Process)) : ConversionM Unit := fun st ↦
  (.ok (), { st with conversion := { st.conversion with process } })

/-- Puts an artifact under a key. -/
def putArtifact (key : String) (item : Item) : ConversionM Unit := fun st ↦
  let artifacts := st.conversion.artifacts.put key item
  (.ok (), { st with conversion := { st.conversion with artifacts } })

/-- The artifact under a key. -/
def artifact (key : String) : ConversionM Item := do
  return (← current).artifacts.get key

/-- The artifact under a key, which must be there. -/
def requireArtifact (key : String) : ConversionM Item := do
  let item ← artifact key
  if item.isAbsent then throw (.missingArtifact key) else return item

/-- The definition at the moment. -/
def currentDefinition : ConversionM Definition := do
  Build.fetch (← current).definition

/-- The process, of which the named part is about to be used. -/
def requireProcess (part : String) : ConversionM (Ref Process) := do
  match (← current).process with
  | some process => return process
  | none => throw (.noPart Json.null.nature part)

/-- The elements of a process, which are about to be gone through. -/
def elementsOf (process : Ref Process) : ConversionM (List (Ref Element)) := do
  match (← (Build.fetch process : Build Process)).elements with
  | some elements => return elements
  | none => throw (.notIterable Json.null.nature)

/-- Appends an element to the process's list of elements. -/
def appendElement (process : Ref Process) (element : Ref Element) : ConversionM Unit := do
  match (← (Build.fetch process : Build Process)).elements with
  | some elements =>
    Build.update process fun p ↦ { p with elements := some (elements ++ [element]) }
  | none => throw (.noPart Json.null.nature "append")

end Conversion

end WorkflowArtifacts
