import WorkflowArtifacts.Session.Basic
import WorkflowArtifacts.Store.Comparison
import WorkflowArtifacts.Store.Writing

/-!
# Performing operations

What each operation of a session does and what it results in. An operation on a stored item first
finds the item, then checks that it is of the right kind, and only then looks at its arguments.
-/

namespace WorkflowArtifacts

open Build

namespace Session

/-- The result of an operation that has none. -/
def nothing : Item := .data .null

/-- A list of elements as a result. -/
def elementGroup (elements : List (Ref Element)) : Item := .group (elements.map .element)

/-- Does something that has no result. -/
def silently {m : Type → Type} [Monad m] (action : m Unit) : m Item := do
  action
  return nothing

/-- Replaces the environment by one with the given variables, as far as they can be set. -/
def replaceEnvironment (assignments : List (String × Json)) : SessionM Unit := do
  let (outcome, environment) := Environment.empty.setAll assignments
  change fun st ↦ { st with environment }
  ofExcept outcome

/-! ## Beginning conversions -/

/-- The definition that a source stands for. -/
def DefinitionSource.resolve : DefinitionSource → SessionM (Ref Definition)
  | .given document => do
    let document ← validated .definition document
    Definition.load document
  | .same => return (← requireCurrent "workflow_definition").conversion.definition

/-- Begins a conversion. The definition is read before the listeners are made. -/
def beginConversion (definition : DefinitionSource) (listeners : List ListenerRequest)
    (converters : List ConverterName) : SessionM Unit := do
  let definition ← definition.resolve
  let environment := (← state).environment
  let listeners ← ofExcept (listeners.mapM (·.listener environment))
  begin
    { conversion := .start definition
      listeners
      converters := converters.map ConverterName.converter }

/-! ## Working on the current conversion -/

/-- Gives the conversion a process given as a document, or none. -/
def replaceProcess (process : Json) : SessionM Unit := do
  if process.isNull then participate "process" (Conversion.setProcess none)
  else
    let document ← validated .process process
    let process ← Process.load document
    participate "process" (Conversion.setProcess (some process))

/-- The start events of the process. -/
def listStartEvents : ConversionM (List (Ref Element)) := do
  let process ← Conversion.requireProcess "start_events"
  let elements ← Conversion.elementsOf process
  let store ← (get : Build Store)
  return elements.filter fun r ↦ (store.get r).startEvent?.isSome

/-- The member of a list at a position, which must be there. -/
def requireMember {α : Type} (members : List α) (position : Int) : ConversionM α :=
  ExceptT.mk (pure (requireAt "list" members position))

/-- Adds an element of the process once more. -/
def addAgain (position : Int) : ConversionM (Ref Element) := do
  let process ← Conversion.requireProcess "add_flow_element"
  let content : Process ← fetch process
  match content.elements with
  | none => throw (.notIndexable Json.null.nature)
  | some elements =>
    let element ← requireMember elements position
    Conversion.appendElement process element
    return element

/-- Generates an id. The token for it is taken before there turns out to be no conversion. -/
def freshId : SessionM String := do
  if (← state).current.isNone then wasteToken
  participate "process" Conversion.generateId

/-- Gives a start event another form key. -/
def assignKeyAt (position : Int) (formKey : Json) : ConversionM Unit := do
  let element ← requireMember (← listStartEvents) position
  update element (·.withFormKey formKey)

/-! ## Performing -/

/-- Performs an operation, and returns its result. -/
def Operation.perform : Operation → SessionM Item
  | .newConversion definition listeners converters =>
    silently (beginConversion definition listeners converters)
  | .defaultConversion definition settings =>
    silently (beginConversion definition [.artifactSetup settings true true] [])
  | .setEnvironment assignments => silently (replaceEnvironment assignments)
  | .setProcess process => silently (replaceProcess process)
  | .setMalformedProcess id => silently do
    let process ← alloc ({ id, name := none, elements := none } : Process)
    participate "process" (Conversion.setProcess (some process))
  | .setProcessId id => silently <| participate "process" do
    let process ← Conversion.requireProcess "id"
    update process fun p ↦ { p with id }
  | .setDefinitionId id => silently <| participate "workflow_definition" do
    update (← Conversion.current).definition fun d ↦ { d with id }
  | .addElement element =>
    .entity <$> .element <$> participate "process" (addElementOf .element (pure element))
  | .addElementAgain position =>
    .entity <$> .element <$> participate "process" (addAgain position)
  | .assignFormKey position formKey =>
    silently (participate "process" (assignKeyAt position formKey))
  | .startEvents => elementGroup <$> participate "process" listStartEvents
  | .checkGraph => participate "process" do
    return .data (.ofTexts ((← Conversion.graphProblems).map Graph.Problem.message))
  | .artifactId => (.data ∘ .text) <$> participate "workflow_definition"
      Conversion.artifactId
  | .generateId => (.data ∘ .text) <$> freshId
  | .makeContentModel processId author version => do
    let (model, own) ← participate "workflow_definition"
      (Conversion.makeContentModel processId author version)
    return .group [.contentModel model, .modelNamespace own]
  | .makeFormModule processId =>
    .entity <$> .formModule <$> participate "set_artifact" (Conversion.makeFormModule processId)
  | .supplyStartForms => elementGroup <$> participate "process" Conversion.supplyStartForms
  | .hook phase position => silently do
    let current ← requireCurrent "listeners"
    participate "listeners" do
      let listener ← requireMember current.listeners position
      listener.hook phase
  | .run => do
    let current ← requireCurrent "convert"
    .entity <$> .process <$> participate "convert"
      (Conversion.run current.listeners current.converters)
  | .putArtifact key source => silently do
    let _ ← requireCurrent "set_artifact"
    let item ← source.resolve
    participate "set_artifact" (Conversion.putArtifact key item)
  | .getArtifact key => participate "get_artifact" (Conversion.artifact key)
  | .getFormModule =>
    participate "get_artifact" (Conversion.requireArtifact Vocabulary.formModuleKey)
  | .getContentModel =>
    participate "get_artifact" (Conversion.requireArtifact Vocabulary.contentModelKey)
  | .getQualifier =>
    participate "get_artifact" (Conversion.requireArtifact Vocabulary.qualifierKey)
  | .newRecord recordClass data => do
    let document ← validated recordClass data
    let entity ← recordClass.load document
    return .entity entity
  | .equal a b => do
    let first ← a.resolve
    let second ← b.resolve
    return .data (.bool (← ofExcept (first.same (← state).store second)))
  | .get target => target.resolve
  | .dump target style => do
    let item ← target.resolve
    .data <$> ofExcept (item.write (← state).store style)
  | .addConfiguration target evaluator condition => do
    let owner ← expect Entity.formModule? "add_configuration" (← target.resolve)
    .entity <$> .configuration <$>
      checkedBuild (FormModule.addConfiguration owner evaluator condition)
  | .addForm target formId => do
    let owner ← expect Entity.configuration? "create_form" (← target.resolve)
    .entity <$> .form <$> checkedBuild (Configuration.addForm owner formId)
  | .addDetailsForm target => do
    let owner ← expect Entity.configuration? "create_form" (← target.resolve)
    .entity <$> .form <$> build (DetailsForm.addTo owner)
  | .addShown target field => silently do
    let owner ← expect Entity.visibility? "add_show_field_element" (← target.resolve)
    Visibility.addShown owner field
  | .addSet target id appearance labelId template => do
    let owner ← expect Entity.appearance? "add_form_set" (← target.resolve)
    .entity <$> .formSet <$>
      checkedBuild (Appearance.addSet owner id appearance labelId template)
  | .addField target id labelId set => do
    let owner ← expect Entity.appearance? "add_form_field" (← target.resolve)
    .entity <$> .formField <$> checkedBuild (Appearance.addField owner id labelId set)
  | .appendField target source => do
    let owner ← expect Entity.appearance? "add_form_appearance_element" (← target.resolve)
    let item ←
      match source with
      | .given data =>
        let document ← validated .formField data
        let field ← FormField.load document
        pure (.entity (.formField field))
      | .existing origin => origin.resolve
    Appearance.appendItem owner item
    return item
  | .addParameter target name value => do
    let owner ← expect Entity.control? "add_control_parameter" (← target.resolve)
    .entity <$> .controlParameter <$> checkedBuild (Control.addParameter owner name value)

/-- What a result is remembered as: itself, except that of a content model and its namespace only
the model is remembered. -/
def remembered (operation : Operation) (result : Item) : Item :=
  match operation, result with
  | .makeContentModel .., .group (model :: _) => .entity model
  | _, result => result

/-- Performs an operation and gives a name to its result. -/
def Request.perform (request : Request) : SessionM Item := do
  let result ← request.operation.perform
  match request.name with
  | some name => giveName name (remembered request.operation result)
  | none => pure ()
  return result

end Session

end WorkflowArtifacts
