/-!
# Document trees

A page is a list of nodes. Text counts as text whether it is prose, a script or a style sheet;
remarks (comments, marked sections, document types, instructions, declarations) never do. Names are
compared as they stand, so a name in capitals is a name of its own.
-/

namespace PageAudit

/-- What text is for. -/
inductive TextKind where
  | prose
  | script
  | stylesheet
  deriving DecidableEq, Repr

/-- What a remark is. -/
inductive RemarkKind where
  | comment
  | cdata
  | doctype
  | instruction
  | declaration
  deriving DecidableEq, Repr

/-- The value of an attribute: one text, the words of a list, or nothing at all. -/
inductive Attribute.Value where
  | text (text : String)
  | words (words : List String)
  | none
  deriving DecidableEq, Repr

/-- An attribute of an element, by its name as written. -/
structure Attribute where
  name : String
  value : Attribute.Value
  deriving DecidableEq, Repr

/-- The value as one text: the words of a list are joined by single blanks. -/
def Attribute.Value.text? : Attribute.Value → Option String
  | text s => some s
  | words ws => some (" ".intercalate ws)
  | none => Option.none

/-- A tree: a leaf that is text or a remark, or an element with its children in order. -/
inductive Node where
  | text (kind : TextKind) (content : String)
  | remark (kind : RemarkKind) (content : String)
  | element (name : String) (attributes : List Attribute) (children : List Node)
  deriving Repr, Inhabited

/-- The name of the elements whose contents are inert. -/
def templateName : String := "template"

end PageAudit
