import PageAudit.Report.Issue
import PageAudit.Text.Quoted

/-!
# Violations

A value that is not of the required form has one violation for each place at which it is not. Parts
of a value are checked independently, so that all violations come to light at once and in the order
of the parts.
-/

namespace PageAudit

/-- One step into a value. -/
inductive PathStep where
  | key (name : String)
  | index (position : Nat)
  deriving DecidableEq, Repr

/-- What is wrong with a value. -/
inductive Flaw where
  | missing
  | unexpected
  | notText
  | tooShort
  | notList
  /-- Not an object that could be read as a thing of this name. -/
  | notRecord (name : String)
  /-- None of the words that may stand here. -/
  | notOneOf (words : List String)
  /-- What has been made cannot be changed. -/
  | unchangeable
  deriving DecidableEq, Repr

/-- A flaw, and the way to the value that has it. -/
structure Violation where
  path : List PathStep
  flaw : Flaw
  deriving DecidableEq, Repr

/-- `a, b or c`, each word in quotes. -/
def alternatives : List String → String
  | [] => ""
  | [w] => Text.quoted w.toList
  | [v, w] => Text.quoted v.toList ++ " or " ++ Text.quoted w.toList
  | w :: ws => Text.quoted w.toList ++ ", " ++ alternatives ws

/-- The name of a flaw. -/
def Flaw.label : Flaw → String
  | missing => "missing"
  | unexpected => "extra_forbidden"
  | notText => "string_type"
  | tooShort => "string_too_short"
  | notList => "list_type"
  | notRecord _ => "model_type"
  | notOneOf _ => "enum"
  | unchangeable => "frozen_instance"

/-- What is said of a flaw. -/
def Flaw.message : Flaw → String
  | missing => "Field required"
  | unexpected => "Extra inputs are not permitted"
  | notText => "Input should be a valid string"
  | tooShort => "String should have at least 1 character"
  | notList => "Input should be a valid list"
  | notRecord name => s!"Input should be a valid dictionary or instance of {name}"
  | notOneOf words => "Input should be " ++ alternatives words
  | unchangeable => "Instance is frozen"

/-- A value of the required form, or what keeps it from being one. -/
abbrev Checked (α : Type) := Except (List Violation) α

namespace Checked

/-- What keeps a value from being of the required form. -/
def violations {α : Type} : Checked α → List Violation
  | .ok _ => []
  | .error vs => vs

/-- The value itself, and no part of it, has a flaw. -/
def fail {α : Type} (flaw : Flaw) : Checked α :=
  .error [⟨[], flaw⟩]

/-- What is wrong with a part is wrong with the whole at the place of the part. -/
def under {α : Type} (step : PathStep) : Checked α → Checked α
  | .ok a => .ok a
  | .error vs => .error (vs.map fun v => { v with path := step :: v.path })

/-- Both parts, or the violations of both. -/
def both {α β : Type} (x : Checked α) (y : Checked β) : Checked (α × β) :=
  match x, y with
  | .ok a, .ok b => .ok (a, b)
  | x, y => .error (x.violations ++ y.violations)

/-- Checks the items of a list from a position on. -/
def each {α β : Type} (check : α → Checked β) (position : Nat) : List α → Checked (List β)
  | [] => .ok []
  | a :: as =>
    match both ((check a).under (.index position)) (each check (position + 1) as) with
    | .ok (b, bs) => .ok (b :: bs)
    | .error vs => .error vs

end Checked

end PageAudit
