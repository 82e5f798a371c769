import GroupRunner.Report
import GroupRunner.Style
import GroupRunner.Text.Search
import GroupRunner.Text.Break

set_option autoImplicit false

namespace GroupRunner

namespace Table

structure Rule where
  left : String
  stroke : String
  cross : String
  right : String

def top : Rule := ⟨"┌", "─", "┬", "┐"⟩
def underHeader : Rule := ⟨"╞", "═", "╪", "╡"⟩
def between : Rule := ⟨"├", "╌", "┼", "┤"⟩
def bottom : Rule := ⟨"└", "─", "┴", "┘"⟩

def times (count : Nat) (text : String) : String :=
  String.join (List.replicate count text)

-- Widths are counted in 16 bits; what is wider counts as this wide.
def maxWidth : Nat := 65535

def padded (width : Nat) : Nat := min (width + 2) maxWidth

def Rule.draw (rule : Rule) (widths : List Nat) : String :=
  rule.left ++ String.intercalate rule.cross (widths.map fun w => times (padded w) rule.stroke) ++
    rule.right

structure Cell where
  text : String
  hue : Option Hue := none

abbrev Line := String × Nat

def measure (text : String) : Line := (text, Text.width text)

structure Measured where
  lines : List Line
  hue : Option Hue

def Measured.ofCell (cell : Cell) : Measured :=
  { lines := (Text.lines cell.text).map measure, hue := cell.hue }

def Measured.width (cell : Measured) : Nat :=
  min ((cell.lines.map Prod.snd).foldl max 0) maxWidth

def columnWidths : List (List Measured) → List Nat
  | [] => []
  | row :: rows =>
    rows.foldl (fun widths row => widths.zipWith max (row.map Measured.width))
      (row.map Measured.width)

-- A line of a cell as it stands in its column, or blanks only where the cell has no more lines.
def pad (paint : Hue → String → String) (hue : Option Hue) (width : Nat) : Option Line → String
  | some (text, columns) =>
    let shown := " " ++ text ++ times (width - columns) " " ++ " "
    match hue with
    | none => shown
    | some hue => paint hue shown
  | none => times (padded width) " "

def Measured.linesWithin (width : Nat) (cell : Measured) : List Line :=
  cell.lines.flatMap fun line =>
    if width < line.2 then (Text.breakLine width line.1).map measure else [line]

def drawRow (paint : Hue → String → String) (widths : List Nat) (row : List Measured) :
    List String :=
  let columns := widths.zipWith
    (fun width cell => (pad paint cell.hue width, (cell.linesWithin width).toArray)) row
  let height := (columns.map fun (_, lines) => lines.size).foldl max 0
  (List.range height).map fun i =>
    "│" ++ String.intercalate "┆" (columns.map fun (pad, lines) => pad lines[i]?) ++ "│"

def draw (paint : Hue → String → String) (header : List Cell) (rows : List (List Cell)) : String :=
  let header := header.map Measured.ofCell
  let rows := rows.map fun row => row.map Measured.ofCell
  let widths := columnWidths (header :: rows)
  let body := (rows.map (drawRow paint widths)).intersperse [between.draw widths]
  String.intercalate "\n"
    (top.draw widths :: drawRow paint widths header ++ underHeader.draw widths :: body.flatten ++
      [bottom.draw widths])

end Table

namespace Report

def label (result : GroupResult) : String :=
  match result.verdict with
  | .passed => if result.hasUnexpectedStderr then "stderr" else "passed"
  | .failed _ => "failed"
  | .harness _ => "harness"

def hue (result : GroupResult) : Hue :=
  match result.verdict with
  | .passed => if result.hasUnexpectedStderr then .yellow else .green
  | .failed _ => .red
  | .harness _ => .magenta

def artifacts (result : GroupResult) : String :=
  String.intercalate ", " (([result.stdoutPath, result.stderrPath].filterMap id).filterMap
    fun path => path.fileName.map Utf8.lossy)

def tableHeader : List Table.Cell :=
  [{ text := "Group" }, { text := "Result" }, { text := "Failed" }, { text := "Exit code" },
    { text := "Duration" }, { text := "Artifacts" }]

-- The label has its colour by the style of the report, the artifacts are dim in any case.
def tableRow (style : Style) (result : GroupResult) : List Table.Cell :=
  [{ text := result.group.name },
    { text := label result, hue := if style = .color then some (hue result) else none },
    { text := toString result.failedTests }, { text := toString result.status.exitCode },
    { text := toString result.duration.millis ++ "ms" },
    { text := artifacts result, hue := some .dim }]

def table (style : Style) (paint : Hue → String → String) (report : Report) : String :=
  Table.draw paint tableHeader (report.results.map (tableRow style))

end Report

end GroupRunner
