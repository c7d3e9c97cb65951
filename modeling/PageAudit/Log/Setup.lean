import PageAudit.Log.Registry

/-!
# Setting up a logger

The first setup of a logger attaches a handler for the console and, if a file is named, one for that
file. Every later setup only changes levels. A level is given by its number or by its name; with a
name that is not known nothing happens at all, whereas a file that cannot be opened is found out
only after the level has been set and the console attached.
-/

namespace PageAudit.Log

/-- A level as it is asked for. -/
inductive LevelChoice where
  | number (level : Level)
  | name (name : String)
  deriving DecidableEq, Repr

namespace Setup

/-- Why a logger cannot be set up. -/
inductive Error where
  | unknownLevel (name : String)
  | unopened (error : FileTree.Error)
  deriving DecidableEq, Repr

/-- What is said of the error. -/
def Error.message : Error → String
  | unknownLevel name => "Unknown level: " ++ Text.quoted name.toList
  | unopened e => e.message

end Setup

/-- The level that is asked for. -/
def LevelChoice.level : LevelChoice → Except Setup.Error Level
  | number level => .ok level
  | name n =>
    match Level.ofName? n with
    | some level => .ok level
    | none => .error (.unknownLevel n)

/-- The loggers and the files that they may write to. -/
structure Site where
  registry : Registry := {}
  tree : FileTree := {}
  deriving DecidableEq, Repr

namespace Site

/-- Sets the level of a logger and of all its handlers. -/
def relevel (s : Site) (name : String) (level : Level) : Site :=
  let handlers := (s.registry.logger name).handlers.map ({ · with level })
  { s with registry := s.registry.put name ⟨level, handlers⟩ }

/-- Gives a logger one more handler. -/
def attach (s : Site) (name : String) (handler : Handler) : Site :=
  let logger := s.registry.logger name
  { s with registry :=
      s.registry.put name { logger with handlers := logger.handlers ++ [handler] } }

/-- Opens a file for a logger, after which the file is there. -/
def attachFile (s : Site) (name : String) (level : Level) (path : String) :
    Except FileTree.Error Site :=
  let p := (Path.ofText path).collapsed
  match s.tree.target p with
  | .error cause => .error ⟨cause, p.text⟩
  | .ok place =>
    .ok ({ s with tree := s.tree.append place [] }.attach name ⟨.file place, level⟩)

/-- Sets up a logger that has a level already. -/
def setupAt (s : Site) (name : String) (level : Level) (file : String) :
    Site × Except Setup.Error Unit :=
  let isFirst := (s.registry.logger name).handlers.isEmpty
  let s := s.relevel name level
  if !isFirst then (s, .ok ())
  else
    let s := s.attach name ⟨.console, level⟩
    if file.isEmpty then (s, .ok ())
    else match s.attachFile name level file with
      | .ok s => (s, .ok ())
      | .error e => (s, .error (.unopened e))

/-- Sets up the logger of a name; an empty file name is none. -/
def setup (s : Site) (name : String) (level : LevelChoice) (file : String := "") :
    Site × Except Setup.Error Unit :=
  match level.level with
  | .error e => (s, .error e)
  | .ok level => s.setupAt (canonicalName name) level file

/-- Gives a record to its logger: what appears on the console, and the files afterwards. -/
def log (s : Site) (record : Record) : Site × String :=
  ({ s with tree := s.registry.writeFiles record s.tree }, s.registry.consoleText record)

end Site

end PageAudit.Log
