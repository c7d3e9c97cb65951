import PageAudit.Document
import PageAudit.Markup.Browser.Reader
import PageAudit.Markup.Plain.Reader
import PageAudit.Markup.Tolerant.Reader

/-!
# The three readers
-/

namespace PageAudit.Markup

/-- The readers that are written here. Of bytes in a provided codec they get at the plain ones. -/
def readers : Readers where
  parse
    | .browser => Browser.read
    | .tolerant => Tolerant.read
    | .plain => Plain.read
  tables := .bare

/-- Readers some of which fail whatever they are given, each for a reason of its own. -/
def failing (failures : List (String × String)) (readers : Readers) : Readers where
  parse r text :=
    match failures.lookup r.label with
    | some reason => .error reason
    | none => readers.parse r text
  tables := readers.tables

end PageAudit.Markup
