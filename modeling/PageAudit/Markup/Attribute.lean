import PageAudit.Dom.Node
import PageAudit.Text.Blank

/-!
# Attributes as read from markup

A few attributes hold a list of words, most of them only on some elements. All others hold one
text.
-/

namespace PageAudit.Markup

/-- The attributes that hold words on every element. -/
def wordAttributes : List String := ["class", "accesskey", "dropzone"]

/-- The attributes that hold words on the elements of a name. -/
def wordAttributesOn : String → List String
  | "a" => ["rel", "rev"]
  | "link" => ["rel", "rev"]
  | "td" => ["headers"]
  | "th" => ["headers"]
  | "form" => ["accept-charset"]
  | "object" => ["archive"]
  | "area" => ["rel"]
  | "icon" => ["sizes"]
  | "iframe" => ["sandbox"]
  | "output" => ["for"]
  | _ => []

/-- An attribute holds words on an element of this name. -/
def holdsWords (element name : String) : Bool :=
  wordAttributes.contains name || (wordAttributesOn element.toLower).contains name

/-- An attribute with the value that its text stands for. -/
def attributeOf (element : String) (name value : String) : Attribute :=
  ⟨name, if holdsWords element name then .words (Text.words value) else .text value⟩

end PageAudit.Markup
