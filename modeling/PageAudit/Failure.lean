import PageAudit.Json.Basic

/-!
# Failures

What can go wrong with an audit is reported as a failure: its kind, a message, and details for
those who want them. Every kind is a special case of the general one.
-/

namespace PageAudit

/-- What kind of thing went wrong. -/
inductive Failure.Kind where
  | general
  | parse
  /-- The setting that was to blame. -/
  | config (setting : String)
  deriving DecidableEq, Repr

/-- What is reported to a caller when something goes wrong. -/
structure Failure where
  kind : Failure.Kind
  message : String
  details : List (String × Json) := []
  deriving Repr

namespace Failure

/-- The name of a kind. -/
def Kind.label : Kind → String
  | general => "OptimizerError"
  | parse => "ParseError"
  | config _ => "ConfigError"

/-- The kinds that a failure is of, the most special one first. -/
def Kind.labels : Kind → List String
  | general => [general.label]
  | k => [k.label, general.label]

/-- The setting that was to blame, if one was. -/
def setting? (f : Failure) : Option String :=
  match f.kind with
  | .config setting => some setting
  | _ => none

/-- A failure as a record. -/
def response (f : Failure) : List (String × Json) :=
  [("error", .str f.kind.label), ("message", .str f.message), ("details", .obj f.details)]

end Failure

end PageAudit
