import PageAudit.Audit.Settings
import PageAudit.Evaluation
import PageAudit.File.Tree
import PageAudit.Report.Basic

/-!
# The course of an audit

An audit reads a page, lets the rules of one category after the other look at it, and compiles a
report. Each of these steps is announced, waited for and crossed off; all that happens on the way is
noted in order. If the page cannot be read, its step stays open and none of the others begins.
-/

namespace PageAudit

namespace Audit

/-- One of the steps of an audit. -/
inductive Step where
  | reading
  | checking (category : Category)
  | compiling
  deriving DecidableEq, Repr

/-- What is told of a step when it is announced and when it is crossed off. -/
def Step.label : Step → String
  | reading => "Parsing HTML Structure..."
  | checking .seo => "Running SEO Analysis..."
  | checking .accessibility => "Checking Accessibility..."
  | checking .structural => "Reviewing HTML Structure..."
  | checking .performance => "Scanning for Performance..."
  | compiling => "Compiling Report..."

/-- Something that happens during an audit. -/
inductive Note where
  | logged (record : Log.Record)
  | active (step : Step)
  | slept (delay : Double)
  | completed (step : Step)
  deriving DecidableEq, Repr

/-- What a step that is told of is about: it begins, or it is done. -/
inductive Status where
  | active
  | completed
  deriving DecidableEq, Repr

namespace Status

/-- Both, in the order in which a step has them. -/
def all : List Status := [active, completed]

/-- The word for a status in reports on the progress. -/
def label : Status → String
  | active => "active"
  | completed => "completed"

end Status

/-- What a note tells of a step, if it is about one. -/
def Note.told? : Note → Option (Status × Step)
  | active step => some (.active, step)
  | completed step => some (.completed, step)
  | _ => none

/-- Why there is no report. -/
inductive Error where
  | document (error : Document.Error)
  | file (error : FileTree.Error)
  deriving DecidableEq, Repr

/-- What is said of the error. -/
def Error.message : Error → String
  | document e => e.message
  | file e => e.message

/-- How an audit ended and what happened before. -/
structure Run where
  result : Except Error Report
  notes : List Note

/-- The logger of all audits. -/
def logger : String := Log.partLogger "main"

/-- A note of a record at the usual level. -/
def info (message : String) : Note :=
  .logged ⟨Log.Level.info, logger, message⟩

/-- The record that a note is about, if it is about one. -/
def Note.record? : Note → Option Log.Record
  | logged r => some r
  | _ => none

/-- The records among the notes, in order. -/
def Run.log (r : Run) : List Log.Record :=
  r.notes.filterMap Note.record?

end Audit

open Audit

/-- One who audits: with one reader or with all, at a pace, and telling of the progress or not. -/
structure Auditor where
  reader : Option Reader := none
  delay : Double := Double.zero
  announces : Bool := false
  deriving DecidableEq, Repr

namespace Auditor

/-- An auditor by its settings. The reader is looked at first, so its error hides that of a
delay. -/
def configure (env : Environment) (reader : Option String) (delay : Option Double)
    (announces : Bool := false) : Except SettingError Auditor := do
  let reader ← env.chooseReader reader
  let delay ← env.chooseDelay delay
  return ⟨reader, delay, announces⟩

/-- What happens before a step: it goes into the log, is announced and waited for. -/
def begin (a : Auditor) (step : Step) : List Note :=
  info step.label :: (if a.announces then [.active step] else [])
    ++ (if a.delay.isZero then [] else [.slept a.delay])

/-- What happens after a step: it is crossed off. -/
def finish (a : Auditor) (step : Step) : List Note :=
  if a.announces then [.completed step] else []

/-- A step from beginning to end. -/
def whole (a : Auditor) (step : Step) : List Note :=
  a.begin step ++ a.finish step

/-- The issues of the categories on a page, and what happens while they are looked for. -/
def checkAll (a : Auditor) (page : Page) : List Category → List Issue × List Note
  | [] => ([], [])
  | c :: cs =>
    let (issues, notes) := a.checkAll page cs
    (page.check c ++ issues, a.whole (.checking c) ++ notes)

/-- The last message of an audit. -/
def conclusion (count : Nat) (source : Option String) : String :=
  let name := (nonEmpty source).getD "input"
  s!"Complete: {count} issue(s) in {name}"

/-- Audits a page that has been read. -/
def auditDocument (a : Auditor) (d : Document) (source : Option String) : Report × List Note :=
  let (issues, notes) := a.checkAll d.page Category.all
  let report : Report := ⟨source, issues, d.warnings⟩
  (report, notes ++ a.whole .compiling ++ [info (conclusion report.issues.length source)])

/-- Audits markup. If it cannot be read, that is the end, and the step of reading is never crossed
off. -/
def audit (a : Auditor) (readers : Readers) (markup : Source) (source : Option String := none) :
    Run :=
  let read := Document.read readers markup (a.reader.map (·.label))
  let notes := a.begin .reading ++ read.log.map .logged
  match read.result with
  | .error e => ⟨.error (.document e), notes⟩
  | .ok d =>
    let (report, rest) := a.auditDocument d source
    ⟨.ok report, notes ++ a.finish .reading ++ rest⟩

/-- Audits a file under its own name. A file that cannot be read is not audited at all. -/
def auditFile (a : Auditor) (readers : Readers) (tree : FileTree) (path : String) : Run :=
  let p := Path.ofText path
  match tree.read p with
  | .error e => ⟨.error (.file e), []⟩
  | .ok content => a.audit readers (.bytes content) (some p.name)

end Auditor

end PageAudit
