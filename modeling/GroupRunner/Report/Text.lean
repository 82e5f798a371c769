import GroupRunner.Config
import GroupRunner.Report
import GroupRunner.Style
import GroupRunner.Text.Search
import GroupRunner.Time.Seconds

set_option autoImplicit false

namespace GroupRunner

namespace Report

inductive Item
  | verdict (verdict : Verdict)
  | crashed (groups : List String)
  | total (count : Nat)
  | failed (group : String) (count : Nat)
  | harness (group : String) (problem : HarnessProblem)
  | errorOutput (count : Nat)
  | separator
  | errorsOf (group : String)
  | errors (content : String)
  deriving DecidableEq, Repr

def separator : String := "---------------------------------------------"

def Item.write (style : Style) : Item → String
  | .verdict .success => style.success Verdict.success.text
  | .verdict .failed => style.failure Verdict.failed.text
  | .crashed groups => "Failed to run directories: [" ++ String.intercalate ", " groups ++ "]"
  | .total count => "Total number of tests failed: " ++ toString count
  | .failed group count =>
    "\tDirectory " ++ group ++ " has " ++ toString count ++ " failed test(s)"
  | .harness group problem =>
    "\t" ++ style.warning "Harness problem in" ++ " " ++ group ++ ": " ++ problem.message
  | .errorOutput count => "Unexpected error output in " ++ toString count ++ " group(s)."
  | .separator => Report.separator
  | .errorsOf group => "Group " ++ group ++ " has the following errors:"
  | .errors content => Text.trimLineEnds content

def resultItem? (result : GroupResult) : Option Item :=
  match result.verdict with
  | .passed => none
  | .failed count => some (.failed result.group.name count)
  | .harness problem => some (.harness result.group.name problem)

def failureItems (report : Report) : List Item :=
  if report.hasFailures then
    (if report.crashedGroups.isEmpty then [] else [.crashed report.crashedGroups]) ++
      .total report.totalFailedTests :: report.results.filterMap resultItem?
  else []

def errorItems (report : Report) : List Item :=
  if report.hasErrorOutput then
    .errorOutput report.errorOutputGroups.length :: .separator ::
      report.errorOutputs.flatMap fun (group, content) =>
        [.errorsOf group, .errors content, .separator]
  else []

def items (report : Report) : List Item :=
  match report.verdict with
  | .failed => .verdict .failed :: report.failureItems ++ report.errorItems
  | .success => report.failureItems ++ report.errorItems ++ [.verdict .success]

def bodyLines (style : Style) (report : Report) : List String :=
  report.items.map (Item.write style)

def body (style : Style) (report : Report) : String :=
  String.intercalate "\n" (report.bodyLines style)

def render (style : Style) (report : Report) : String :=
  String.intercalate "\n"
    (report.bodyLines style ++ ["", "Finished in " ++ report.elapsed.inSeconds ++ " seconds"])

end Report

def Config.renderCommand (config : Config) : String :=
  "Command: " ++ config.commandLine

def renderGroupList (names : List String) : String :=
  String.intercalate "\n"
    ((toString names.length ++ " test group(s) selected:") :: names.map ("\t" ++ ·))

end GroupRunner
