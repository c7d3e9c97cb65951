import PageAudit.Json.Basic
import PageAudit.Report.Basic
import PageAudit.Report.Violation

/-!
# Issues and reports from JSON

An issue is read from an object that has its five keys and no other, a report from an object of
whose three keys any may be missing and in which other keys do not matter. Only a string counts as
text.
-/

namespace PageAudit

namespace Json

/-- A text. -/
def text : Json → Checked String
  | str s => .ok s
  | _ => Checked.fail .notText

/-- A text that is not empty. -/
def nonEmptyText (j : Json) : Checked String :=
  match j with
  | str s => if s.isEmpty then Checked.fail .tooShort else .ok s
  | _ => Checked.fail .notText

/-- A text, or nothing. -/
def textOrNull : Json → Checked (Option String)
  | null => .ok none
  | j => j.text.map some

/-- A list of items that each pass a check. -/
def list {α : Type} (check : Json → Checked α) : Json → Checked (List α)
  | arr xs => Checked.each check 0 xs
  | _ => Checked.fail .notList

/-- One of the words of a vocabulary. -/
def word {α : Type} (words : List String) (find? : String → Option α) (j : Json) : Checked α :=
  match j.str?.bind find? with
  | some a => .ok a
  | none => Checked.fail (.notOneOf words)

/-- The value under a key that has to be there. -/
def required {α : Type} (key : String) (check : Json → Checked α)
    (members : List (String × Json)) : Checked α :=
  Checked.under (.key key) (match members.lookup key with
    | some j => check j
    | none => Checked.fail .missing)

/-- The value under a key, or a default if the key is not there. -/
def optional {α : Type} (key : String) (check : Json → Checked α) (default : α)
    (members : List (String × Json)) : Checked α :=
  Checked.under (.key key) (match members.lookup key with
    | some j => check j
    | none => .ok default)

/-- No key other than those listed. -/
def noOther (keys : List String) (members : List (String × Json)) : Checked Unit :=
  match members.filter fun (k, _) => !keys.contains k with
  | [] => .ok ()
  | others => .error (others.map fun (k, _) => ⟨[.key k], .unexpected⟩)

end Json

namespace Issue

/-- The keys of an issue in the order in which they are checked and written. -/
def keys : List String := ["category", "severity", "title", "description", "suggestion"]

/-- The issue that a value describes. Every field is checked, and then whether there are others. -/
def ofJson (j : Json) : Checked Issue :=
  match j with
  | .obj ms =>
    let category := Json.required "category" (Json.word (Category.all.map (·.label))
      Category.ofLabel?) ms
    let severity := Json.required "severity" (Json.word (Severity.all.map (·.label))
      Severity.ofLabel?) ms
    let title := Json.required "title" Json.nonEmptyText ms
    let description := Json.required "description" Json.nonEmptyText ms
    let suggestion := Json.required "suggestion" Json.nonEmptyText ms
    (category.both (severity.both (title.both (description.both (suggestion.both
      (Json.noOther keys ms)))))).map fun (c, s, t, d, g, ()) => ⟨c, s, t, d, g⟩
  | _ => Checked.fail (.notRecord "Issue")

/-- The issue with its five keys. -/
def toJson (i : Issue) : Json :=
  .obj [("category", .str i.category.label), ("severity", .str i.severity.label),
    ("title", .str i.title), ("description", .str i.description),
    ("suggestion", .str i.suggestion)]

/-- An issue does not change, so an assignment to one of its fields does nothing but fail. -/
def assign (_ : Issue) (field : String) : Checked Issue :=
  (Checked.fail .unchangeable).under (.key field)

end Issue

namespace Report

/-- The report that a value describes. -/
def ofJson (j : Json) : Checked Report :=
  match j with
  | .obj ms =>
    let source := Json.optional "source" Json.textOrNull none ms
    let issues := Json.optional "issues" (Json.list Issue.ofJson) [] ms
    let warnings := Json.optional "warnings" (Json.list Json.text) [] ms
    (source.both (issues.both warnings)).map fun (s, is, ws) => ⟨s, is, ws⟩
  | _ => Checked.fail (.notRecord "AuditReport")

/-- The report with its three keys, a source that is not known being nothing. -/
def toJson (r : Report) : Json :=
  .obj [("source", match r.source with
      | some s => .str s
      | none => .null),
    ("issues", .arr (r.issues.map Issue.toJson)), ("warnings", .strs r.warnings)]

end Report

end PageAudit
