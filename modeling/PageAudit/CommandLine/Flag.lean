import PageAudit.Document
import PageAudit.Report.Issue
import PageAudit.Text.Digit
import PageAudit.Text.Quoted

/-!
# Options of the command line

Every option has one or two spellings: a long one with two dashes and a short one with one. A long
spelling may be cut short as long as only one option fits, a value may follow an equals sign, and
the value of a short option may follow it directly. What looks like a negative number, or holds a
blank, is no option unless it fits one.
-/

namespace PageAudit.CommandLine

/-- The options. -/
inductive Flag where
  | help
  | format
  | output
  | reader
  | delay
  | progress
  | failOn
  | verbose
  deriving DecidableEq, Repr

namespace Flag

/-- All spellings, in the order in which they are offered. -/
def spellings : List (String × Flag) :=
  [("-h", help), ("--help", help), ("--format", format), ("--output", output), ("-o", output),
    ("--parser", reader), ("--delay", delay), ("--progress", progress), ("--fail-on", failOn),
    ("--verbose", verbose), ("-v", verbose)]

/-- The option with this spelling, written out in full. -/
def ofSpelling? (s : String) : Option Flag :=
  spellings.lookup s

/-- The spellings of an option as messages show them. -/
def title (f : Flag) : String :=
  "/".intercalate ((spellings.filter (·.2 = f)).map (·.1))

/-- The option has a value of its own, and does not just stand for itself. -/
def takesValue : Flag → Bool
  | help | progress | verbose => false
  | _ => true

/-- The values that an option may take, if they are limited. -/
def choices : Flag → List String
  | format => ["text", "json"]
  | reader => Reader.labels
  | failOn => Severity.all.map (·.label)
  | _ => []

end Flag

/-- Why arguments cannot be used. -/
inductive UsageError where
  | ambiguous (written : String) (spellings : List String)
  | noValue (flag : Flag)
  | needlessValue (flag : Flag) (value : String)
  | notNumber (flag : Flag) (value : String)
  | notChoice (flag : Flag) (value : String)
  | noFiles
  | unrecognized (arguments : List String)
  deriving DecidableEq, Repr

namespace UsageError

/-- A message about an option. -/
def about (flag : Flag) (what : String) : String :=
  s!"argument {flag.title}: {what}"

/-- Words in quotes, with commas between them. -/
def quotedList (words : List String) : String :=
  ", ".intercalate (words.map fun w => Text.quoted w.toList)

/-- What is said of the error, with the option and the value to blame. -/
def message : UsageError → String
  | ambiguous written spellings =>
    let fitting := ", ".intercalate spellings
    s!"ambiguous option: {written} could match {fitting}"
  | noValue flag => about flag "expected one argument"
  | needlessValue flag value =>
    about flag ("ignored explicit argument " ++ Text.quoted value.toList)
  | notNumber flag value => about flag ("invalid float value: " ++ Text.quoted value.toList)
  | notChoice flag value =>
    let choices := quotedList flag.choices
    about flag ("invalid choice: " ++ Text.quoted value.toList ++ s!" (choose from {choices})")
  | noFiles => "the following arguments are required: files"
  | unrecognized arguments => "unrecognized arguments: " ++ " ".intercalate arguments

end UsageError

/-- An argument by what it looks like. -/
inductive Word where
  | operand (text : String)
  /-- From here on everything is an operand. -/
  | separator
  | unknown (text : String)
  /-- An option, and what is written with it: a value, or more options if they may be bundled. -/
  | flag (flag : Flag) (bundled : Bool) (value : Option (List Char))
  deriving DecidableEq, Repr

namespace Word

/-- Digits, or digits around a point with at least one after it; a line feed may follow. -/
def isNumber (s : List Char) : Bool :=
  let s := if s.getLast? == some '\n' then s.dropLast else s
  match s.dropWhile Text.isDecimalDigit with
  | [] => !s.isEmpty
  | '.' :: places => !places.isEmpty && places.all Text.isDecimalDigit
  | _ => false

/-- The part before the first equals sign, and the part after it if there is one. -/
def splitValue (s : List Char) : List Char × Option (List Char) :=
  let name := s.takeWhile (· != '=')
  (name, (s.drop name.length).tail?)

/-- The options that an argument fits without being a spelling of one, each with that spelling. -/
def fitting (s : List Char) : List (String × Word) :=
  match s with
  | '-' :: '-' :: _ =>
    let (name, value) := splitValue s
    (Flag.spellings.filter fun (spelling, _) => name.isPrefixOf spelling.toList).map
      fun (spelling, f) => (spelling, flag f false value)
  | _ =>
    (Flag.spellings.filter fun (spelling, _) => spelling.toList == s.take 2).map
      fun (spelling, f) => (spelling, flag f true (some (s.drop 2)))

/-- An argument that starts with a dash and is more than that. -/
def ofDashed (s : List Char) : Except UsageError Word :=
  let text := String.ofList s
  let (name, value) := splitValue s
  match Flag.ofSpelling? text, Flag.ofSpelling? (.ofList name) with
  | some f, _ => .ok (flag f false none)
  | none, some f => .ok (flag f false value)
  | none, none =>
    match fitting s with
    | [(_, w)] => .ok w
    | [] =>
      if isNumber (s.drop 1) || s.contains ' ' then .ok (operand text) else .ok (unknown text)
    | several => .error (.ambiguous text (several.map (·.1)))

/-- An argument that is no separator. A single dash is an operand. -/
def ofArgument (text : String) : Except UsageError Word :=
  match text.toList with
  | '-' :: c :: s => ofDashed ('-' :: c :: s)
  | _ => .ok (operand text)

/-- All arguments by what they look like. Behind the first separator none is an option. -/
def ofArguments : List String → Except UsageError (List Word)
  | [] => .ok []
  | text :: texts =>
    if text = "--" then .ok (separator :: texts.map operand)
    else do
      let w ← ofArgument text
      return w :: (← ofArguments texts)

end Word

end PageAudit.CommandLine
