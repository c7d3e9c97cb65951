import PageAudit.File.Path
import PageAudit.Text.Quoted

/-!
# Files

A tree holds what is known of the files and folders around the folder in which the program works. A
path is followed part by part, so every part but the last has to be a folder. A place is the list of
the parts that lead to it without detours: two dots occur in it only at its start, for the folders
above the working folder, and a single slash only there, for the root of all folders.
-/

namespace PageAudit

/-- The content of a file. -/
abbrev Bytes := List UInt8

/-- What the system says when a file may not be read: the name of the error, and its text. -/
structure Refusal where
  label : String
  message : String
  deriving DecidableEq, Repr

/-- What is known of files. But for the folders that are always there, nothing else exists. -/
structure FileTree where
  /-- Files by their places. -/
  files : List (List String × Bytes) := []
  /-- Folders that are there even if they hold nothing. -/
  folders : List (List String) := []
  /-- Places that cannot be read, whatever is there. -/
  refusals : List (List String × Refusal) := []
  deriving DecidableEq, Repr

/-- The refusal of a file that may not be read. -/
def Refusal.permission (p : Path) : Refusal where
  label := "PermissionError"
  message := "[Errno 13] Permission denied: " ++ Text.quoted p.text.toList

namespace FileTree

/-- Why a path does not lead to what is wanted. -/
inductive Cause where
  | notFound
  | notFolder
  | isFolder
  | refused (refusal : Refusal)
  /-- A null character in the path, which no file system allows. -/
  | nullInPath
  deriving DecidableEq, Repr

/-- Why a path does not lead to what is wanted, and the path as it was written. -/
structure Error where
  cause : Cause
  path : String
  deriving DecidableEq, Repr

/-- What is in a place. -/
inductive Thing where
  | file (content : Bytes)
  | folder
  | nothing
  deriving DecidableEq, Repr

/-- The working folder, the folders above it and the root are always there. -/
def isGiven (place : List String) : Bool :=
  place == ["/"] || place.all (· == "..")

/-- The place is a folder: given, listed, or above something that is listed. -/
def isFolder (t : FileTree) (place : List String) : Bool :=
  isGiven place || t.folders.any (place.isPrefixOf ·)
    || t.files.any fun f => place.isPrefixOf f.1 && place != f.1

/-- What is in a place. A file hides a folder of its name. -/
def thing (t : FileTree) (place : List String) : Thing :=
  match t.files.lookup place with
  | some content => .file content
  | none => if t.isFolder place then .folder else .nothing

/-- The place that a part leads to from a folder. -/
def step (place : List String) (part : String) : List String :=
  if part = ".." then
    match place.getLast? with
    | none => [part]
    | some last =>
      if last = "/" then place else if last = ".." then place ++ [part] else place.dropLast
  else place ++ [part]

/-- Where a path starts. -/
def start (p : Path) : List String :=
  if p.root.isEmpty then [] else ["/"]

/-- Follows parts from a place on. The last part may lead to anything. -/
def follow (t : FileTree) (place : List String) : List String → Except Cause (List String)
  | [] => .ok place
  | part :: parts =>
    match t.thing place with
    | .nothing => .error .notFound
    | .file _ => .error .notFolder
    | .folder => follow t (step place part) parts

/-- The place that a path leads to. -/
def find (t : FileTree) (p : Path) : Except Cause (List String) :=
  if p.text.toList.contains '\x00' then .error .nullInPath else t.follow (start p) p.parts

/-- What can be read in a place. A refusal comes before everything else. -/
def contentAt (t : FileTree) (place : List String) : Except Cause Bytes :=
  match t.refusals.lookup place, t.thing place with
  | some refusal, _ => .error (.refused refusal)
  | none, .file content => .ok content
  | none, .folder => .error .isFolder
  | none, .nothing => .error .notFound

/-- The place of a file that is there or could be made. -/
def target (t : FileTree) (p : Path) : Except Cause (List String) := do
  let place ← t.find p
  match t.thing place with
  | .folder => .error .isFolder
  | _ => .ok place

/-- Puts the content of a file in the place of what it was before. -/
def put (t : FileTree) (place : List String) (content : Bytes) : FileTree :=
  { t with files := (t.files.filter (·.1 != place)) ++ [(place, content)] }

/-- The content of the file that a path leads to. -/
def read (t : FileTree) (p : Path) : Except Error Bytes :=
  (do t.contentAt (← t.find p)).mapError fun cause => ⟨cause, p.text⟩

/-- Adds to the end of a file, which is made if need be. -/
def append (t : FileTree) (place : List String) (content : Bytes) : FileTree :=
  t.put place ((t.files.lookup place).getD [] ++ content)

namespace Error

/-- The name of an error. -/
def label (e : Error) : String :=
  match e.cause with
  | .notFound => "FileNotFoundError"
  | .notFolder => "NotADirectoryError"
  | .isFolder => "IsADirectoryError"
  | .refused refusal => refusal.label
  | .nullInPath => "ValueError"

/-- What the system says of an error. -/
def message (e : Error) : String :=
  let path := Text.quoted e.path.toList
  match e.cause with
  | .notFound => s!"[Errno 2] No such file or directory: {path}"
  | .notFolder => s!"[Errno 20] Not a directory: {path}"
  | .isFolder => s!"[Errno 21] Is a directory: {path}"
  | .refused refusal => refusal.message
  | .nullInPath => "embedded null byte"

end Error

end FileTree

end PageAudit
