import PageAudit.Audit.Timeline
import PageAudit.Log.Registry
import PageAudit.Log.Setup

/-!
# One audit after another

An auditor serves any number of requests. What it leaves behind is kept in a ledger: the loggers
that its records have gone to, what they have put on the console, and all that has happened. An
audit that fails is entered like any other.
-/

namespace PageAudit

namespace Audit

/-- Markup to audit, and the name under which to report on it. -/
structure Request where
  markup : Source
  source : Option String := none

/-- What the requests served so far have left behind. -/
structure Ledger where
  site : Log.Site := {}
  console : String := ""
  notes : List Note := []

namespace Ledger

/-- Gives a record to the loggers. -/
def record (l : Ledger) (r : Log.Record) : Ledger :=
  let (site, text) := l.site.log r
  { l with site, console := l.console ++ text }

/-- Enters an audit: its notes, and its records one after the other. -/
def enter (l : Ledger) (run : Run) : Ledger :=
  let l := run.log.foldl record l
  { l with notes := l.notes ++ run.notes }

end Ledger

end Audit

open Audit

namespace Auditor

/-- Serves one request: the ledger afterwards, and how the audit ended. -/
def serve (a : Auditor) (readers : Readers) (l : Ledger) (r : Request) :
    Ledger × Except Audit.Error Report :=
  let run := a.audit readers r.markup r.source
  (l.enter run, run.result)

/-- Serves requests one after the other. -/
def serveAll (a : Auditor) (readers : Readers) (l : Ledger) :
    List Request → Ledger × List (Except Audit.Error Report)
  | [] => (l, [])
  | r :: rs =>
    let (l, result) := a.serve readers l r
    let (l, results) := a.serveAll readers l rs
    (l, result :: results)

end Auditor

end PageAudit
