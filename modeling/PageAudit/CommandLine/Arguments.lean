import PageAudit.CommandLine.Flag
import PageAudit.Number.Notation

/-!
# Arguments of the command line

The arguments name the files to audit and say how. Files stand together: the first operands in a
row are the files, and operands after another option are not recognized. An option given twice
counts as it was given last, and a request for help ends the reading at once.
-/

namespace PageAudit.CommandLine

/-- The form of the report. -/
inductive Format where
  | text
  | json
  deriving DecidableEq, Repr

/-- What the arguments set, all but the files having a default. -/
structure Arguments where
  files : List String
  format : Format := .text
  output : Option String := none
  reader : Option String := none
  delay : Option Double := none
  progress : Bool := false
  failOn : Option Severity := none
  verbose : Bool := false
  deriving DecidableEq, Repr

/-- Why there are no arguments to work with. -/
inductive Stop where
  | help
  | misuse (error : UsageError)
  deriving DecidableEq, Repr

/-- What has been read so far. -/
structure Parsing where
  arguments : Arguments := { files := [] }
  /-- The files have been met. -/
  begun : Bool := false
  /-- The word before belongs to the files. -/
  inFiles : Bool := false
  unrecognized : List String := []

namespace Parsing

/-- Stops with an error. -/
def misuse {α : Type} (e : UsageError) : Except Stop α :=
  .error (.misuse e)

/-- Sets what an option without a value sets. -/
def switch (a : Arguments) : Flag → Except Stop Arguments
  | .help => .error .help
  | .progress => .ok { a with progress := true }
  | .verbose => .ok { a with verbose := true }
  | _ => .ok a

/-- Sets what an option with a value sets. -/
def assign (a : Arguments) (f : Flag) (value : String) : Except Stop Arguments :=
  if !f.choices.isEmpty && !f.choices.contains value then misuse (.notChoice f value)
  else match f with
    | .format => .ok { a with format := if value = "json" then .json else .text }
    | .output => .ok { a with output := some value }
    | .reader => .ok { a with reader := some value }
    | .failOn => .ok { a with failOn := Severity.ofLabel? value }
    | .delay =>
      match Double.parse? value with
      | some d => .ok { a with delay := some d }
      | none => misuse (.notNumber f value)
    | _ => .ok a

/-- Options written in one word: those before the last one, none of which takes a value, and the
last one with the value that is left for it. -/
def unbundle (f : Flag) (bundled : Bool) :
    Option (List Char) → Except UsageError (List Flag × Flag × Option String)
  | none => .ok ([], f, none)
  | some value =>
    if f.takesValue then .ok ([], f, some (.ofList value))
    else match bundled, value with
      | true, c :: cs => unbundleShort f c cs
      | _, _ => .error (.needlessValue f (.ofList value))
where
  /-- A short option without a value, with more characters after it. An equals sign parts the last
  option from its value. -/
  unbundleShort (f : Flag) (c : Char) (cs : List Char) :
      Except UsageError (List Flag × Flag × Option String) :=
    match Flag.ofSpelling? (.ofList ['-', c]) with
    | none => .error (.needlessValue f (.ofList (c :: cs)))
    | some g =>
      match cs with
      | [] => .ok ([f], g, none)
      | '=' :: ds =>
        if g.takesValue then .ok ([f], g, some (.ofList ds))
        else .error (.needlessValue g (.ofList ds))
      | d :: ds =>
        if g.takesValue then .ok ([f], g, some (.ofList (d :: ds)))
        else (unbundleShort g d ds).map fun (before, last) => (f :: before, last)

/-- The value of an option: written with it, or else the operand that follows. -/
def takeValue (f : Flag) (value : Option String) (rest : List Word) :
    Except UsageError (Option String × Nat) :=
  match f.takesValue, value, rest with
  | false, _, _ => .ok (none, 0)
  | true, some value, _ => .ok (some value, 0)
  | true, none, .operand text :: _ => .ok (some text, 1)
  | true, none, _ => .error (.noValue f)

/-- Takes an option; the number of words after it that belong to it comes with the result. -/
def takeFlag (p : Parsing) (f : Flag) (bundled : Bool) (value : Option (List Char))
    (rest : List Word) : Except Stop (Parsing × Nat) := do
  let (before, last, value) ← (unbundle f bundled value).mapError .misuse
  let (value, used) ← (takeValue last value rest).mapError .misuse
  let a ← before.foldlM switch p.arguments
  let a ← match value with
    | some value => assign a last value
    | none => switch a last
  return ({ p with arguments := a, inFiles := false }, used)

/-- Takes an operand: for a file if it stands in the first row of operands, and else it is not
recognized. -/
def takeOperand (p : Parsing) (text : String) : Parsing :=
  if p.inFiles || !p.begun then
    { p with
      begun := true
      inFiles := true
      arguments := { p.arguments with files := p.arguments.files ++ [text] } }
  else { p with unrecognized := p.unrecognized ++ [text] }

/-- A separator vanishes among the files or in front of them. -/
def takeSeparator (p : Parsing) (rest : List Word) : Parsing :=
  if p.inFiles || (!p.begun && !rest.isEmpty) then p
  else { p with unrecognized := p.unrecognized ++ ["--"] }

/-- Takes words; `skipped` of them belong to the option before. -/
def takeAll (p : Parsing) (skipped : Nat) : List Word → Except Stop Parsing
  | [] => .ok p
  | word :: rest =>
    match skipped with
    | n + 1 => takeAll p n rest
    | 0 =>
      match word with
      | .operand text => takeAll (p.takeOperand text) 0 rest
      | .separator => takeAll (p.takeSeparator rest) 0 rest
      | .unknown text =>
        takeAll { p with unrecognized := p.unrecognized ++ [text], inFiles := false } 0 rest
      | .flag f bundled value => do
        let (p, used) ← p.takeFlag f bundled value rest
        takeAll p used rest

end Parsing

namespace Arguments

/-- Reads the arguments of the command line. -/
def parse (texts : List String) : Except Stop Arguments := do
  let words ← (Word.ofArguments texts).mapError .misuse
  let p ← Parsing.takeAll {} 0 words
  if !p.begun then Parsing.misuse .noFiles
  else if !p.unrecognized.isEmpty then Parsing.misuse (.unrecognized p.unrecognized)
  else return p.arguments

end Arguments

end PageAudit.CommandLine
