/-!
# Log records

A record has a level, the name of the logger it was given to, and a message. Levels are numbers,
of which a few have names; a level without a name is written with its number.
-/

namespace PageAudit.Log

/-- How much a record matters. -/
abbrev Level := Int

namespace Level

/-- The level of what ends a program. -/
def critical : Level := 50
/-- The level of what failed. -/
def error : Level := 40
/-- The level of what may be amiss, and the lowest that the root accepts. -/
def warning : Level := 30
/-- The level of what goes as it should. -/
def info : Level := 20
/-- The level of what matters only in the search for a fault. -/
def debug : Level := 10
/-- The level of a logger without a level of its own. -/
def notSet : Level := 0

/-- The names under which levels can be asked for. Two levels have a second name. -/
def names : List (String × Level) :=
  [("CRITICAL", critical), ("FATAL", critical), ("ERROR", error), ("WARNING", warning),
    ("WARN", warning), ("INFO", info), ("DEBUG", debug), ("NOTSET", notSet)]

/-- The level of a name, in capitals. -/
def ofName? (name : String) : Option Level :=
  names.lookup name

/-- The name under which a level is written: the first that it has. -/
def label (level : Level) : String :=
  match names.find? (·.2 = level) with
  | some (name, _) => name
  | none => s!"Level {level}"

end Level

/-- A record as it is given to a logger. -/
structure Record where
  level : Level
  logger : String
  message : String
  deriving DecidableEq, Repr

/-- The logger that the loggers of all parts of the library hang on. -/
def libraryLogger : String := "static_optimizer"

/-- The logger of one part of the library. -/
def partLogger (part : String) : String :=
  libraryLogger ++ "." ++ part

end PageAudit.Log
