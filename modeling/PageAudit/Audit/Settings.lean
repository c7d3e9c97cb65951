import PageAudit.Document
import PageAudit.Failure
import PageAudit.Log.Record
import PageAudit.Number.Notation
import PageAudit.Text.Case

/-!
# Settings

What an audit needs to know comes from its caller or, failing that, from the environment: the reader
to use and the delay before each step. The environment also says what goes into the log. A setting
that cannot be used is refused under the name of the place it came from.
-/

namespace PageAudit

/-- The settings of the environment as they are written there. -/
structure Environment where
  reader : Option String := none
  delay : Option String := none
  logLevel : Option String := none
  deriving DecidableEq, Repr

namespace Environment

/-- The variable that names the reader. -/
def readerName : String := "OPTIMIZER_PARSER"

/-- The variable that sets the delay. -/
def delayName : String := "OPTIMIZER_STEP_DELAY"

/-- The variable that names the lowest level to log. -/
def logLevelName : String := "OPTIMIZER_LOG_LEVEL"

end Environment

/-- Why a setting cannot be used. -/
inductive SettingError where
  | unknownReader (setting name : String)
  | unreadableDelay (text : String)
  | negativeDelay (delay : Double)
  | unknownLevel (name : String)
  deriving DecidableEq, Repr

namespace SettingError

/-- The setting that is refused. -/
def setting : SettingError → String
  | unknownReader setting _ => setting
  | unreadableDelay _ => Environment.delayName
  | negativeDelay _ => "step_delay"
  | unknownLevel _ => Environment.logLevelName

/-- What is said of the error, the text that was given included. -/
def message : SettingError → String
  | unknownReader setting name =>
    let names := ", ".intercalate Reader.labels
    s!"{setting} must be one of {names}, got '{name}'"
  | unreadableDelay text => s!"{Environment.delayName} must be a number of seconds, got '{text}'"
  | negativeDelay delay => s!"step_delay must not be negative, got {delay.text}"
  | unknownLevel name => s!"Unknown log level '{name}'"

/-- The failure to report, which names the setting. -/
def failure (e : SettingError) : Failure :=
  ⟨.config e.setting, e.message, []⟩

end SettingError

/-- An empty text counts as none. -/
def nonEmpty (text : Option String) : Option String :=
  text.filter (!·.isEmpty)

/-- The reader that a setting names. -/
def namedReader (setting name : String) : Except SettingError Reader :=
  match Reader.ofLabel? name with
  | some r => .ok r
  | none => .error (.unknownReader setting name)

/-- The reader asked for by the caller or else by the environment. -/
def Environment.chooseReader (env : Environment) (asked : Option String) :
    Except SettingError (Option Reader) :=
  match nonEmpty asked with
  | some name => (namedReader "parser" name).map some
  | none =>
    match nonEmpty env.reader with
    | some name => (namedReader Environment.readerName name).map some
    | none => .ok none

/-- The delay of the environment, none being no delay. -/
def Environment.readDelay (env : Environment) : Except SettingError Double :=
  match env.delay with
  | none => .ok Double.zero
  | some text =>
    match Double.parse? text with
    | some d => .ok d
    | none => .error (.unreadableDelay text)

/-- The delay asked for by the caller or else by the environment. -/
def Environment.chooseDelay (env : Environment) (asked : Option Double) :
    Except SettingError Double := do
  let d ← match asked with
    | some d => .ok d
    | none => env.readDelay
  if d.isNegative then .error (.negativeDelay d) else .ok d

/-- The level of the log, from its name in any letter case. -/
def Environment.chooseLogLevel (env : Environment) (default : Log.Level) :
    Except SettingError Log.Level :=
  match nonEmpty env.logLevel with
  | none => .ok default
  | some name =>
    match Log.Level.ofName? (Text.upper name) with
    | some level => .ok level
    | none => .error (.unknownLevel name)

end PageAudit
