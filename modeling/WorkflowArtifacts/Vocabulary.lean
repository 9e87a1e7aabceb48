/-!
# Fixed vocabulary

The names, addresses and keys that generated artifacts are written in. They are agreed with the
platform that loads the artifacts, so each is given once, here, and every other module refers to
it.
-/

namespace WorkflowArtifacts

/-- A text with one gap in it. -/
structure Template where
  /-- The text before the gap. -/
  before : String
  /-- The text after the gap. -/
  after : String
  deriving DecidableEq, Repr

namespace Template

/-- The template with its gap filled. -/
def fill (template : Template) (content : String) : String :=
  template.before ++ content ++ template.after

/-- The template as a pattern, the gap marked by a zero in braces. -/
def pattern (template : Template) : String := template.fill "\x7b0\x7d"

end Template

namespace Vocabulary

/-! ## Process ids -/

/-- What a generated process id starts with. -/
def generatedIdLead : String := "process"

/-! ## Content models -/

/-- The unqualified name of every generated content model. -/
def contentModelName : String := "model"

/-- The URI of the namespace of a process. -/
def namespaceUri : Template := ⟨"http://www.alfresco.org/model/", "/1.0"⟩

/-- The URI of the dictionary namespace. -/
def dictionaryUri : String := "http://www.alfresco.org/model/dictionary/1.0"

/-- The short name of the dictionary namespace. -/
def dictionaryQualifier : String := "d"

/-- The URI of the content namespace. -/
def contentUri : String := "http://www.alfresco.org/model/content/1.0"

/-- The short name of the content namespace. -/
def contentQualifier : String := "cm"

/-- The URI of the workflow namespace. -/
def workflowUri : String := "http://www.alfresco.org/model/bpm/1.0"

/-- The short name of the workflow namespace. -/
def workflowQualifier : String := "bpm"

/-! ## Artifact keys -/

/-- The key of the content model. -/
def contentModelKey : String := "alfresco_content_model"

/-- The key of the short name of the content model's namespace. -/
def qualifierKey : String := "alfresco_content_model_namespace_prefix"

/-- The key of the form module. -/
def formModuleKey : String := "alfresco_share_module"

/-! ## Form modules -/

/-- The id of the form module of a process. -/
def formModuleId : Template := ⟨"kickstart_form_", ""⟩

/-- The form key of the default start form. -/
def defaultStartForm : String := "bpm:startTask"

/-- The evaluator that compares texts. -/
def textComparison : String := "string-compare"

/-- The condition that a form belongs to a process. -/
def processCondition : Template := ⟨"activiti$", ""⟩

/-! ## Properties of a workflow -/

/-- The description. -/
def description : String := "bpm:workflowDescription"

/-- The due date. -/
def dueDate : String := "bpm:workflowDueDate"

/-- The priority. -/
def priority : String := "bpm:workflowPriority"

/-- The attached items. -/
def packageItems : String := "packageItems"

/-- Whether notifications are sent by mail. -/
def notifications : String := "bpm:sendEMailNotifications"

/-! ## Form sets -/

/-- The set of general fields. -/
def generalSet : String := "general"

/-- The set of additional information. -/
def infoSet : String := "info"

/-- The set of assignees. -/
def assigneeSet : String := "assignee"

/-- The set of attached items. -/
def itemsSet : String := "items"

/-- The set of everything else. -/
def otherSet : String := "other"

/-- The appearance of a set that has a title. -/
def titleAppearance : String := "title"

/-- The template of a set with two columns. -/
def twoColumns : String := "/org/alfresco/components/form/2-column-set.ftl"

/-- The label of the set of general fields. -/
def generalLabel : String := "workflow.set.general"

/-- The label of the set of assignees. -/
def assigneeLabel : String := "workflow.set.assignee"

/-- The label of the set of attached items. -/
def itemsLabel : String := "workflow.set.items"

/-- The label of the set of everything else. -/
def otherLabel : String := "workflow.set.other"

/-! ## Labels and controls -/

/-- The label of the description. -/
def descriptionLabel : String := "workflow.field.message"

/-- The label of the due date. -/
def dueDateLabel : String := "workflow.field.due"

/-- The label of the priority. -/
def priorityLabel : String := "workflow.field.priority"

/-- The control for texts of several lines. -/
def multilineControl : String := "/org/alfresco/components/form/controls/textarea.ftl"

/-- The control for dates. -/
def dateControl : String := "/org/alfresco/components/form/controls/date.ftl"

/-- The control for priorities. -/
def priorityControl : String :=
  "/org/alfresco/components/form/controls/workflow/priority.ftl"

/-- The control for notifications by mail. -/
def notificationControl : String :=
  "/org/alfresco/components/form/controls/workflow/email-notification.ftl"

/-- The parameter of a date control that shows the time. -/
def showTime : String := "showTime"

/-- The parameter of a date control that submits the time. -/
def submitTime : String := "submitTime"

end Vocabulary

end WorkflowArtifacts
