import PageAudit.Report.Basic
import PageAudit.Text.Quoted

/-!
# Changing a report

Issues and warnings are added at the end. An issue is removed by its position, which may also be
counted from the end by negative numbers.
-/

namespace PageAudit

namespace Report

/-- Why no issue can be removed. -/
inductive RemovalError where
  | empty
  | outOfRange
  deriving DecidableEq, Repr

/-- What is said of the error. -/
def RemovalError.message : RemovalError → String
  | empty => "pop from empty list"
  | outOfRange => "pop index out of range"

/-- The report with one more issue. -/
def add (r : Report) (i : Issue) : Report :=
  { r with issues := r.issues ++ [i] }

/-- The report with one more warning. -/
def warn (r : Report) (text : String) : Report :=
  { r with warnings := r.warnings ++ [text] }

/-- The place in a list of some length that a number stands for, if there is one. -/
def place? (length : Nat) (position : Int) : Option Nat :=
  let i := if position < 0 then position + length else position
  if 0 ≤ i && i < length then some i.toNat else none

/-- The report without the issue in a position. -/
def remove (r : Report) (position : Int) : Except RemovalError Report :=
  if r.issues.isEmpty then .error .empty
  else match place? r.issues.length position with
    | some i => .ok { r with issues := r.issues.eraseIdx i }
    | none => .error .outOfRange

end Report

/-- What is said of a word that names no severity. -/
def Severity.unknownMessage (word : String) : String :=
  Text.quoted word.toList ++ " is not a valid Severity"

end PageAudit
