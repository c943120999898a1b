import SqlPreview.Json.Printer
import SqlPreview.Project.Basic

/-!
# Reports

A report previews every statement of a project with its own example payload.
-/

namespace SqlPreview

/-- The preview of one statement: its example payload, and the SQL or what went wrong. -/
structure ReportEntry where
  parameters : Json
  outcome : Except PreviewError String

/-- Previews by the written paths of the statements. -/
structure Report where
  entries : Dict ReportEntry

namespace Report

/-- The preview of one statement. -/
def entry (previewer : Previewer) (path : StatementPath) : ReportEntry :=
  match previewer.template path with
  | .ok parameters => ⟨parameters, previewer.sqlFor path parameters⟩
  | .error error => ⟨.null, .error error⟩

/-- The report of a project. -/
def ofProject (project : Project) : Report :=
  ⟨Dict.ofPairs (project.statements.map fun path => (path.text, entry project.previewer path))⟩

def size (report : Report) : Nat := report.entries.length

/-- The statements without a preview, with the reasons. -/
def failures (report : Report) : List (String × PreviewError) :=
  report.entries.filterMap fun (path, entry) =>
    match entry.outcome with
    | .ok _ => none
    | .error error => some (path, error)

def entryJson (entry : ReportEntry) : Json :=
  match entry.outcome with
  | .ok sql => .object [("parameters", entry.parameters), ("sql", .string sql)]
  | .error error => .object [("parameters", entry.parameters), ("error", .string error.report)]

def toJson (report : Report) : Json :=
  .object (report.entries.map fun (path, entry) => (path, entryJson entry))

/-- A report as text. -/
def text (report : Report) (pretty : Bool) : String :=
  if pretty then report.toJson.indented else report.toJson.compact

end Report

namespace Project

/-- The report of a project in which every statement has a preview. -/
def check (disk : Disk) (config : Config) : Except ProjectError Report := do
  let project ← load disk config
  let report := Report.ofProject project
  let failed := report.failures.length
  if failed = 0 then pure report else .error (.checkFailed failed report.size)

/-- The report of a project, with the text for its output file. -/
def run (disk : Disk) (config : Config) : Except ProjectError (Report × String) := do
  let project ← load disk config
  let report := Report.ofProject project
  if disk.canWrite config.output then pure (report, report.text config.pretty)
  else .error (.inaccessible config.output)

end Project

end SqlPreview
