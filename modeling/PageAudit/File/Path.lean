/-!
# Paths

A path is a root, if it has one, and parts. Reading a path drops what does not matter: slashes in a
row, a slash at the end, and parts that are a single dot. Two dots stay, as they need not lead back
to where the part before them started.
-/

namespace PageAudit

/-- A path, whose root is empty if it starts where the program works. -/
structure Path where
  root : String := ""
  parts : List String
  deriving DecidableEq, Repr

namespace Path

/-- Two slashes at the start, and no more, are a root of their own. -/
def rootOf (text : List Char) : String :=
  match text with
  | '/' :: '/' :: '/' :: _ => "/"
  | '/' :: '/' :: _ => "//"
  | '/' :: _ => "/"
  | _ => ""

/-- The pieces of a text between slashes. -/
def pieces (text : List Char) : List (List Char) :=
  text.splitOn '/'

/-- The path that a text writes. -/
def ofText (text : String) : Path where
  root := rootOf text.toList
  parts := ((pieces text.toList).filter fun p => p != [] && p != ['.']).map .ofList

/-- The text of a path without root and parts is a single dot. -/
def text (p : Path) : String :=
  let t := p.root ++ "/".intercalate p.parts
  if t.isEmpty then "." else t

/-- The last part. -/
def name (p : Path) : String :=
  p.parts.getLastD ""

/-- The parts that remain when two dots take away the part before them. -/
def collapseParts : List String → List String → List String
  | before, [] => before.reverse
  | before, part :: parts =>
    if part = ".." then
      match before with
      | [] => collapseParts [part] parts
      | b :: bs =>
        if b = ".." then collapseParts (part :: before) parts else collapseParts bs parts
    else collapseParts (part :: before) parts

/-- The path with its two dots resolved by their text alone. -/
def collapsed (p : Path) : Path :=
  { p with parts := collapseParts [] p.parts }

end Path

end PageAudit
