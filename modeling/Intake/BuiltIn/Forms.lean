import Intake.Form.Editing
import Intake.Form.Misfit

/-!
# The forms that come with the engine

* `taskForm` records a task, with its time, the use of AI tools and what it delivered;
* `reporterForm` records who reports tasks;
* `loginForm` lets someone in.

What can be chosen from (markets, products, reporters) is up to the host.
-/

namespace Intake.BuiltIn

/-- A rule that a form of the engine makes for the field at an index. -/
def ownRule (form : String) (index : Nat) (test : RuleTest Value) (message : String) : OwnRule :=
  ⟨.test test ⟨.builtin form, index, .rule⟩, message⟩

/-- The condition that AI tools were used. -/
def aiWasUsed : Condition := ⟨⟨"aiUsed", .bool true⟩, true, none⟩

/-- The condition that other deliverables were selected. -/
def othersSelected : Condition :=
  ⟨⟨"deliverables", .callable (.predicate (.contains (.text "others"))
    ⟨.builtin "task", 12, .condition⟩)⟩, true, none⟩

/-- Half an hour. -/
def half : Bound := .float (.ofDecimal false 5 (-1))

/-- The fields of the task form. -/
def taskFields : List Field := [
  { name := "jiraLink", type := .url, label := some "Jira Link", required := true,
    constraints := { own := some (ownRule "task" 0 .ticketLink
      "Invalid Jira link format. Must be a valid Atlassian Jira URL") },
    placeholder := some "https://company.atlassian.net/browse/TASK-123",
    help := some
      "Enter the complete Jira ticket URL. Task number will be auto-extracted." },
  { name := "taskNumber", type := .text, label := some "Task Number", required := true,
    constraints := { minLength := some 1, own := some (ownRule "task" 1 .ticketKey
      "Invalid task number format (e.g., TASK-123, PROJ-456)") },
    placeholder := some "TASK-123",
    help := some "Task number (auto-extracted from Jira link)" },
  { name := "markets", type := .multiSelect, label := some "Markets", required := true,
    constraints := { minItems := some 1, maxItems := some 10 },
    help := some "Select all markets where this task applies" },
  { name := "product", type := .select, label := some "Product", required := true,
    help := some "Select the primary product this task relates to" },
  { name := "taskName", type := .select, label := some "Task Name", required := true,
    help := some "Select the type of task being performed" },
  { name := "timeInHours", type := .number, label := some "Total Time (Hours)", required := true,
    constraints := { minValue := some half, maxValue := some (.int 24) },
    placeholder := some "2.5",
    help := some "Total time spent on this task (0.5 - 24 hours)" },
  { name := "aiUsed", type := .checkbox, label := some "AI Tools Used",
    help := some "Check if AI tools were used in this task" },
  { name := "timeSpentOnAI", type := .number, label := some "Time Spent on AI (Hours)",
    constraints := {
      minValue := some half, maxValue := some (.int 24)
      own := some (ownRule "task" 7 (.notMoreThan (.text "timeInHours"))
        "AI time must be between 0.5 hours and cannot exceed total time") },
    condition := some aiWasUsed, fallback := half.toValue, placeholder := some "1.0",
    help := some "Hours spent specifically using AI tools" },
  { name := "aiModels", type := .multiSelect, label := some "AI Models Used",
    constraints := { minItems := some 1, maxItems := some 5 },
    condition := some aiWasUsed,
    help := some "Select all AI models used in this task" },
  { name := "reworked", type := .checkbox, label := some "Task Required Rework",
    help := some "Check if this task required rework or revisions" },
  { name := "deliverables", type := .multiSelect, label := some "Deliverables", required := true,
    constraints := { minItems := some 1, maxItems := some 8 },
    help := some
      "Select all deliverables produced by this task (count will be auto-calculated)" },
  { name := "deliverablesCount", type := .number, label := some "Number of Deliverables",
    required := true,
    constraints := {
      minValue := some (.int 1), maxValue := some (.int 100)
      own := some (ownRule "task" 11 (.atLeastItemsOf (.text "deliverables"))
        "Deliverables count must be at least 1 and match selected deliverables") },
    derivation := some ⟨"deliverables"⟩,
    help := some "Total number of deliverables produced (auto-calculated from selection)" },
  { name := "deliverablesOther", type := .multiValue, label := some "Other Deliverables",
    constraints := {
      minItems := some 1, maxItems := some 5
      own := some (ownRule "task" 12 .uniqueItems "Each value can only be added once") },
    condition := some othersSelected, placeholder := some "Enter deliverable name",
    help := some "Specify other deliverables not listed in the main options" },
  { name := "reporters", type := .select, label := some "Reporter", required := true,
    help := some "Select the person responsible for this task" }]

/-- Records a task. -/
def taskForm : Form := ⟨"task", taskFields, by decide⟩

/-- What fills in other answers of the task form. -/
def taskHooks : List Hook :=
  [ticketHook "jiraLink" "taskNumber", countHook "deliverables" "deliverablesCount"]

/-- Records a reporter. -/
def reporterForm : Form := ⟨"reporter", [
  { name := "name", type := .text, label := some "Reporter Name", required := true,
    constraints := { minLength := some 2, maxLength := some 100 },
    help := some "Enter the reporter\x27s full name" },
  { name := "email", type := .email, label := some "Email Address", required := true,
    help := some "Enter the reporter\x27s email address" },
  { name := "departament", type := .select, label := some "Department", required := true,
    help := some "Select the reporter\x27s department" },
  { name := "country", type := .select, label := some "Country", required := true,
    help := some "Select the reporter\x27s country" }], by decide⟩

/-- Lets someone in. -/
def loginForm : Form := ⟨"login", [
  { name := "email", type := .email, label := some "NetBet Email Address", required := true,
    constraints := { own := some (ownRule "login" 0 (.emailDomain "@netbet.ro")
      "Only @netbet.ro email addresses are accepted") },
    placeholder := some "Enter your NetBet email",
    help := some "Only @netbet.ro email addresses are accepted" },
  { name := "password", type := .password, label := some "Password", required := true,
    constraints := { minLength := some 6 },
    placeholder := some "Enter your password" }], by decide⟩

/-- All forms that come with the engine. -/
def forms : List Form := [taskForm, reporterForm, loginForm]

/-- The form with a name. -/
def form? (name : String) : Option Form := forms.find? fun f => f.name = name

end Intake.BuiltIn
