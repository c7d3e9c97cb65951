import PageAudit.Audit.Timeline
import PageAudit.CommandLine.Arguments
import PageAudit.Log.Setup
import PageAudit.Report.Rendering

/-!
# A session on the command line

A session audits one input after the other and writes one report on all of them, to the output or
to a file. Progress and the log go to the console, which is kept apart from the output. What the
session does to the world is a list of effects in order, and how it ends is an exit status: 2 if an
input could not be audited, else 1 if an issue is serious enough, else 0.
-/

namespace PageAudit.CommandLine

/-- What a session finds when it starts. -/
structure World where
  readers : Readers
  environment : Environment := {}
  tree : FileTree := {}
  input : Bytes := []

/-- Something that a session does to the world. -/
inductive Effect where
  /-- Text on the console. -/
  | tells (text : String)
  | waits (delay : Double)
  /-- Text on the output. -/
  | prints (text : String)
  /-- A file, by its place, with its new content. -/
  | saves (place : List String) (text : String)
  deriving DecidableEq, Repr

/-- How a session ends. -/
inductive Ending where
  | status (code : Nat)
  /-- Stopped by an error that a report does not cover. -/
  | broken (error : Audit.Error)
  deriving DecidableEq, Repr

/-- What a session does, in order, and how it ends. -/
structure Outcome where
  effects : List Effect
  ending : Ending
  deriving DecidableEq, Repr

namespace Outcome

/-- All that is put on the output. -/
def output (o : Outcome) : String :=
  String.join (o.effects.filterMap fun
    | .prints text => some text
    | _ => none)

/-- All that is put on the console. -/
def console (o : Outcome) : String :=
  String.join (o.effects.filterMap fun
    | .tells text => some text
    | _ => none)

/-- The delays that are waited for, in order. -/
def waits (o : Outcome) : List Double :=
  o.effects.filterMap fun
    | .waits delay => some delay
    | _ => none

/-- The files that are written, in order. -/
def saved (o : Outcome) : List (List String × String) :=
  o.effects.filterMap fun
    | .saves place text => some (place, text)
    | _ => none

end Outcome

/-- One input with what its audit came to. -/
structure Entry where
  file : String
  result : Except Audit.Error Report

/-- An error that belongs into the report: the input could not be read. -/
def isReported : Audit.Error → Bool
  | .document e => e.failure?.isSome
  | .file e => e.cause != .nullInPath

/-- An error as members of a record. -/
def errorMembers : Audit.Error → List (String × Json)
  | .document e =>
    match e.failure? with
    | some f => f.response
    | none => [("message", .str e.message)]
  | .file e => [("error", .str e.label), ("message", .str e.message)]

namespace Entry

/-- The entry as an item of the report for programs. -/
def json (e : Entry) : Json :=
  .obj (("file", .str e.file) :: match e.result with
    | .ok report => [("status", .str "success"), ("report", report.toJson)]
    | .error error => ("status", .str "error") :: errorMembers error)

/-- The entry as a part of the report for people. -/
def text (e : Entry) : String :=
  match e.result with
  | .ok report => report.text
  | .error error => s!"== {e.file} ==\nError: {error.message}"

/-- What is told about an input after its audit. -/
def verdict (e : Entry) : String :=
  match e.result with
  | .ok report => s!"  ✓ {report.issues.length} issue(s)\n"
  | .error error => s!"  ✗ Error: {error.message}\n"

/-- The input has no report. -/
def failed (e : Entry) : Bool :=
  match e.result with
  | .ok _ => false
  | .error _ => true

/-- The input has an issue at least as serious as a threshold. -/
def reaches (threshold : Severity) (e : Entry) : Bool :=
  match e.result with
  | .ok report => report.highestSeverity.any (·.rank ≤ threshold.rank)
  | .error _ => false

end Entry

/-- The exit status after one more input: a failure makes it 2, whatever it was, and an issue that
is serious enough makes it 1 if it was 0. -/
def statusAfter (threshold : Option Severity) (code : Nat) (e : Entry) : Nat :=
  if e.failed then 2
  else if threshold.any (e.reaches ·) && code == 0 then 1
  else code

/-- The exit status of a session. -/
def status (threshold : Option Severity) (entries : List Entry) : Nat :=
  entries.foldl (statusAfter threshold) 0

/-- The report on all inputs. -/
def Format.render (f : Format) (entries : List Entry) : String :=
  match f with
  | .json => (Json.arr (entries.map Entry.json)).pretty .ascii
  | .text => "\n\n".intercalate (entries.map Entry.text)

/-- What a note of an audit does to the world. -/
def noteEffects (registry : Log.Registry) : Audit.Note → List Effect
  | .logged record =>
    let text := registry.consoleText record
    if text.isEmpty then [] else [.tells text]
  | .active step => [.tells s!"  … {step.label}\n"]
  | .completed step => [.tells s!"  ✓ {step.label}\n"]
  | .slept delay => [.waits delay]

/-- The name under which the standard input is asked for. -/
def inputName : String := "-"

/-- Audits one input. -/
def auditOne (w : World) (a : Auditor) (input : Bytes) (name : String) : Audit.Run :=
  if name = inputName then a.audit w.readers (.bytes input) (some "<stdin>")
  else a.auditFile w.readers w.tree name

/-- Audits inputs one after the other. The standard input can be read once. -/
def auditAll (w : World) (registry : Log.Registry) (a : Auditor) (input : Bytes) :
    List String → List Effect × Except Audit.Error (List Entry)
  | [] => ([], .ok [])
  | name :: names =>
    let run := auditOne w a input name
    let entry : Entry := ⟨name, run.result⟩
    let effects := .tells s!"Auditing: {name}\n" :: run.notes.flatMap (noteEffects registry)
    let goOn :=
      let (more, rest) :=
        auditAll w registry a (if name = inputName then [] else input) names
      (effects ++ .tells entry.verdict :: more, rest.map (entry :: ·))
    match run.result with
    | .ok _ => goOn
    | .error e => if isReported e then goOn else (effects, .error e)

/-- Puts the report where it is wanted. -/
def deliver (tree : FileTree) (output : Option String) (text : String) :
    Except FileTree.Error (List Effect) :=
  match nonEmpty output with
  | none => .ok [.prints text]
  | some name =>
    let p := Path.ofText name
    match tree.target p with
    | .error cause => .error ⟨cause, p.text⟩
    | .ok place => .ok [.saves place text, .tells s!"\nReport saved to: {name}\n"]

/-- The loggers and the auditor of a session. -/
def prepare (env : Environment) (args : Arguments) :
    Except SettingError (Log.Registry × Auditor) := do
  let level ← if args.verbose then .ok Log.Level.debug
    else env.chooseLogLevel Log.Level.warning
  let site := (Log.Site.setup {} Log.libraryLogger (.number level)).1
  let auditor ← Auditor.configure env args.reader args.delay args.progress
  return (site.registry, auditor)

/-- A session with arguments that have been read. -/
def session (w : World) (args : Arguments) : Outcome :=
  match prepare w.environment args with
  | .error e => ⟨[.tells s!"Configuration error: {e.message}\n"], .status 2⟩
  | .ok (registry, auditor) =>
    let (effects, result) := auditAll w registry auditor w.input args.files
    match result with
    | .error e => ⟨effects, .broken e⟩
    | .ok entries =>
      match deliver w.tree args.output (args.format.render entries ++ "\n") with
      | .error e => ⟨effects, .broken (.file e)⟩
      | .ok more => ⟨effects ++ more, .status (status args.failOn entries)⟩

/-- How a request on the command line is answered. -/
inductive Answer where
  | help
  | misuse (error : UsageError)
  | done (outcome : Outcome)

/-- Answers arguments, with a session if they can be used. -/
def run (w : World) (arguments : List String) : Answer :=
  match Arguments.parse arguments with
  | .ok args => .done (session w args)
  | .error .help => .help
  | .error (.misuse e) => .misuse e

/-- The name by which the program speaks of itself. -/
def programName : String := "run_audit.py"

/-- What is told about arguments that cannot be used. -/
def misuseText (e : UsageError) : String :=
  s!"{programName}: error: {e.message}"

end PageAudit.CommandLine
