import PageAudit.Json.Printer
import PageAudit.Json.Reader
import PageAudit.Report.Validation
import PageAudit.Text.Case

/-!
# Written reports

A report is written for people, as a card for each issue under a heading for each category, or for
programs, as JSON. The first form drops the warnings; the second drops nothing, and reading it gives
the report back (`Report.ofText?`).
-/

namespace PageAudit

/-- The lines of a text, parted by line feeds. -/
def joinLines (lines : List String) : String :=
  "\n".intercalate lines

/-- The lines on one issue. -/
def Issue.card (i : Issue) : List String :=
  [s!"[{Text.upper i.severity.label}] {i.title}", s!"    {i.description}",
    s!"    Fix: {i.suggestion}"]

namespace Report

/-- What a report without issues says. -/
def cleanMessage : String := "No significant issues found. Your code looks great."

/-- The heading of a category, underlined. -/
def heading (c : Category) (count : Nat) : List String :=
  let line := s!"{c.label} ({count})"
  [line, .ofList (List.replicate line.length '-')]

/-- The lines on one category. -/
def cards (c : Category) (issues : List Issue) : List String :=
  heading c issues.length ++ issues.flatMap Issue.card

/-- The line on where the page came from, if that is known. -/
def sourceLines (r : Report) : List String :=
  match r.source with
  | some s => if s.isEmpty then [] else [s!"== {s} =="]
  | none => []

/-- Adds a section to lines, after a blank line if there are any. -/
def addSection (lines : List String) (block : Category × List Issue) : List String :=
  (if lines.isEmpty then [] else lines ++ [""]) ++ cards block.1 block.2

/-- All lines of the report. Without issues there is one that says so. -/
def lines (r : Report) : List String :=
  if r.hasIssues then r.byCategory.foldl addSection r.sourceLines
  else r.sourceLines ++ [cleanMessage]

/-- The report for people. -/
def text (r : Report) : String :=
  joinLines r.lines

/-- The report for programs. -/
def json (r : Report) : String :=
  r.toJson.pretty .minimal

/-- The report that a text in JSON holds. -/
def ofText? (s : String) : Option Report :=
  (Json.parse? s).bind fun j => (ofJson j).toOption

/-- The written report reads back as the same report. -/
def readsBack (r : Report) : Bool :=
  ofText? r.json == some r

end Report

end PageAudit
