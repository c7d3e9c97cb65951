import PageAudit.File.Tree
import PageAudit.Log.Record

/-!
# Loggers

Loggers form a tree by their names: dots part a name from those of its ancestors, and the root is
above all. A logger without a level of its own has that of the nearest ancestor with one. A record
that its logger accepts goes to the handlers of the logger and of all its ancestors, each of which
takes it if its own level allows.
-/

namespace PageAudit.Log

/-- Where records are written. -/
inductive Sink where
  | console
  /-- A file by its place. -/
  | file (place : List String)
  deriving DecidableEq, Repr

/-- What takes records to a sink, from a level on. -/
structure Handler where
  sink : Sink
  level : Level
  deriving DecidableEq, Repr

/-- A logger as it is changed by setups. -/
structure Logger where
  level : Level := Level.notSet
  handlers : List Handler := []
  deriving DecidableEq, Repr

/-- The name of the root. -/
def rootName : String := "root"

/-- The logger that a name asks for: the root has a name, and goes without one too. -/
def canonicalName (name : String) : String :=
  if name.isEmpty then rootName else name

/-- The loggers that have been changed, by name. All others are as they are by default. -/
structure Registry where
  loggers : List (String × Logger) := [(rootName, { level := Level.warning })]
  deriving DecidableEq, Repr

/-- The names of the ancestors, the longest first: the texts before the dots of a name, but of dots
in a row, counted from the last, only before every other one. -/
def ancestorNames (before : List Char) : List Char → List String
  | [] => []
  | c :: s =>
    let rest := ancestorNames (c :: before) s
    let isCounted := (s.takeWhile (· == '.')).length % 2 == 0
    if c == '.' && isCounted && !before.isEmpty then rest ++ [.ofList before.reverse] else rest

/-- A logger and its ancestors up to the root. -/
def lineage (name : String) : List String :=
  if name = rootName then [rootName]
  else name :: ancestorNames [] name.toList ++ [rootName]

namespace Registry

/-- The logger of a name. -/
def logger (r : Registry) (name : String) : Logger :=
  (r.loggers.lookup name).getD {}

/-- Puts a logger in the place of the one that had its name. -/
def put (r : Registry) (name : String) (logger : Logger) : Registry where
  loggers := (r.loggers.filter (·.1 != name)) ++ [(name, logger)]

/-- Sets the level of a logger and leaves its handlers alone. -/
def setLevel (r : Registry) (name : String) (level : Level) : Registry :=
  r.put name { r.logger name with level }

/-- The level of a logger: its own, or that of its nearest ancestor with one. -/
def effectiveLevel (r : Registry) (name : String) : Level :=
  (((lineage name).map fun n => (r.logger n).level).find? (· != Level.notSet)).getD Level.notSet

/-- Only records above level zero are ever accepted. -/
def accepts (r : Registry) (record : Record) : Bool :=
  0 < record.level && r.effectiveLevel record.logger ≤ record.level

/-- The sinks that a record is written to, once for each handler that takes it. -/
def sinks (r : Registry) (record : Record) : List Sink :=
  if r.accepts record then
    (lineage record.logger).flatMap fun name =>
      ((r.logger name).handlers.filter (·.level ≤ record.level)).map (·.sink)
  else []

end Registry

/-- The time at which every record is written. -/
def clock : String := "1970-01-01 00:00:00"

/-- A record as it is written to a sink. -/
def Record.line (r : Record) : String :=
  s!"{clock} - {r.logger} - {r.level.label} - {r.message}\n"

/-- What a record adds to the console. -/
def Registry.consoleText (r : Registry) (record : Record) : String :=
  String.join (((r.sinks record).filter (· = .console)).map fun _ => record.line)

/-- The files after a record has been written to those of its sinks that are files. -/
def Registry.writeFiles (r : Registry) (record : Record) (tree : FileTree) : FileTree :=
  (r.sinks record).foldl (fun tree sink => match sink with
    | .console => tree
    | .file place => tree.append place record.line.toUTF8.toList) tree

end PageAudit.Log
