import PageAudit.Text.Blank

/-!
# Trimming

The edges of a text are looked for from left to right, and each one found is taken out. An edge is
a run of blanks and byte order marks, as long as can be. One that begins where the text begins may
end anywhere; one that begins later has to reach the end of the text, or all but a last line feed.
-/

namespace PageAudit.Text

/-- Nothing is left of the text, or a line feed only. -/
def isEnd (s : List Char) : Bool :=
  s.isEmpty || s == ['\n']

/-- What follows the longest run of one or more characters of the class, among those at the front
of the text that end where they may; `found` if there is none. -/
def behindRun (p : Char → Bool) (mayEnd : List Char → Bool) (found : Option (List Char)) :
    List Char → Option (List Char)
  | [] => found
  | c :: s => if p c then behindRun p mayEnd (if mayEnd s then some s else found) s else found

/-- What follows the edge that begins here. -/
def behindEdge (p : Char → Bool) (isStart : Bool) (s : List Char) : Option (List Char) :=
  (if isStart then behindRun p (fun _ => true) none s else none) <|> behindRun p isEnd none s

/-- Takes the edges out of a text. So many characters of the last edge are `pending`, still to be
passed over, and `kept` is what stays of the text so far, its last character first. -/
def cutEdges (p : Char → Bool) (isStart : Bool) (pending : Nat) (kept : List Char) :
    List Char → List Char
  | [] => kept.reverse
  | c :: s =>
    match pending with
    | pending + 1 => cutEdges p false pending kept s
    | 0 =>
      match behindEdge p isStart (c :: s) with
      | some rest => cutEdges p false (s.length - rest.length) kept s
      | none => cutEdges p false 0 (c :: kept) s

/-- The text without its edges. -/
def trim (s : String) : String :=
  .ofList (cutEdges isEdge true 0 [] s.toList)

end PageAudit.Text
