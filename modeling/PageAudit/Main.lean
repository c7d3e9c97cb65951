import PageAudit.CommandLine.Session
import PageAudit.Markup.Readers

/-!
# The program

Looks at the world as far as the arguments name it, lets the session decide what to do, and does it.
-/

namespace PageAudit.CommandLine

/-- There is a folder of this name. What cannot be looked at is none. -/
def isFolderOnDisk (name : String) : IO Bool := do
  try (← IO.FS.realPath name).isDir
  catch _ => return false

/-- What is found at a path, whose place is known. -/
def lookAt (tree : FileTree) (path : Path) : IO FileTree := do
  let place := path.parts.foldl FileTree.step (FileTree.start path)
  if ← isFolderOnDisk path.text then
    return { tree with folders := tree.folders ++ [place] }
  try
    let content ← IO.FS.readBinFile path.text
    return tree.put place content.toList
  catch
    | .permissionDenied .. =>
      return { tree with refusals := tree.refusals ++ [(place, .permission path)] }
    | _ => return tree

/-- What is found at a path and at all the paths that lead to it. -/
def lookAlong (tree : FileTree) (name : String) : IO FileTree := do
  let path := Path.ofText name
  (List.range (path.parts.length + 1)).foldlM
    (fun tree n => lookAt tree { path with parts := path.parts.take n }) tree

/-- The world as far as the arguments name it. The input is read only if it is to be audited. -/
def look (args : Arguments) : IO World := do
  let names := args.files.filter (· != inputName) ++ (nonEmpty args.output).toList
  let tree ← names.foldlM lookAlong {}
  let input ← if args.files.contains inputName then (← IO.getStdin).readBinToEnd
    else pure ByteArray.empty
  let environment : Environment := ⟨← IO.getEnv Environment.readerName,
    ← IO.getEnv Environment.delayName, ← IO.getEnv Environment.logLevelName⟩
  return ⟨Markup.readers, environment, tree, input.toList⟩

/-- Does to the world what a session wants done. A delay is waited for in whole milliseconds. -/
def perform : Effect → IO Unit
  | .tells text => IO.eprint text
  | .waits delay => IO.sleep (Nat.toUInt32 (min (delay.wholeTimes 1000) (UInt32.size - 1)))
  | .prints text => IO.print text
  | .saves place text => IO.FS.writeFile ("/".intercalate place) text

/-- How the program is to be called. -/
def usageLine : String :=
  s!"usage: {programName} [options] files"

/-- Runs the program and gives its exit status. -/
def program (arguments : List String) : IO UInt32 := do
  match Arguments.parse arguments with
  | .error .help =>
    IO.println usageLine
    return 0
  | .error (.misuse e) =>
    IO.eprintln s!"{usageLine}\n{misuseText e}"
    return 2
  | .ok args =>
    let outcome := session (← look args) args
    outcome.effects.forM perform
    match outcome.ending with
    | .status code => return code.toUInt32
    | .broken e =>
      IO.eprintln e.message
      return 1

end PageAudit.CommandLine

/-- The program, from the command line. -/
def main (arguments : List String) : IO UInt32 :=
  PageAudit.CommandLine.program arguments
