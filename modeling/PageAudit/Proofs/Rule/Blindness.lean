import PageAudit.Proofs.Dom.Edit
import PageAudit.Proofs.Rule.Sight

/-!
# What no rule sees

The issues on a page depend on nothing but what the rules read. Remarks, the parts that a text comes
in and the kinds of those parts, and all attributes but a few may change at will
(`Page.evaluate_eq_of_edited`).
-/

namespace PageAudit

namespace Page

variable {p p' : Page}

theorem alike_of_alikeWithin (h : List.Forall₂ Element.AlikeWithin p.elements p'.elements) :
    p.Alike p' :=
  List.rel_filter (fun _ _ he => iff_of_eq (congrArg (· = true) he.isLive))
    (Element.alike_of_alikeWithin h)

theorem head?_alikeWithin (h : List.Forall₂ Element.AlikeWithin p.elements p'.elements) :
    Option.Rel Element.AlikeWithin p.head? p'.head? :=
  Element.find?_alikeWithin "head" h

theorem evaluate_eq_of_edit {ns ms : List Node} (h : Node.Edit ns ms) :
    evaluate ⟨ns⟩ = evaluate ⟨ms⟩ :=
  have helements := h.alikeWithin [] 0
  evaluate_eq_of_alike (alike_of_alikeWithin helements) (head?_alikeWithin helements)

/-- Pages that differ only by edits that nothing reads have the same issues. In particular, the
attributes of links may be exchanged for any others, as long as none gains or loses a style. -/
theorem evaluate_eq_of_edited :
    (∀ p p' : Page, p.Edited p' → p.evaluate = p'.evaluate)
      ∧ ∀ (p : Page) (f : List Attribute → List Attribute),
          Node.KeepsStyle f → (p.relinked f).evaluate = p.evaluate := by
  have hedited : ∀ p p' : Page, p.Edited p' → p.evaluate = p'.evaluate := fun p p' h =>
    Node.Edited.value_eq (f := fun ns => evaluate ⟨ns⟩) (fun _ _ => evaluate_eq_of_edit) h
  exact ⟨hedited, fun p f hf => (hedited p _ (Node.edited_relinkedAll hf p.nodes)).symm⟩

/-- A link and a canonical address. -/
def plainLink : Page where
  nodes := [.element "a" [⟨"href", .text "/"⟩] [.text .prose "read more"],
    .element "link" [⟨"rel", .words ["canonical"]⟩] []]

/-- The same with the text of the link in two parts of different kinds, a comment between them,
other attributes, and no canonical address. -/
def partedLink : Page where
  nodes := [.element "a" [⟨"class", .words ["wide", "red"]⟩, ⟨"href", .none⟩]
      [.text .prose "read ", .remark .comment "or not", .text .stylesheet "more"],
    .element "link" [] []]

theorem edited_plainLink : plainLink.Edited partedLink := by
  have hsplit : Node.Edited [.text .prose "read more"]
      [.text .prose "read ", .text .prose "more"] :=
    .rel _ _ (.split .prose "read " "more")
  have hremark : Node.Edited [.text .prose "read ", .text .prose "more"]
      [.text .prose "read ", .remark .comment "or not", .text .prose "more"] :=
    .rel _ _ (.among [.text .prose "read "] [.text .prose "more"] (.remark .comment "or not"))
  have hretype : Node.Edited [.text .prose "read ", .remark .comment "or not", .text .prose "more"]
      [.text .prose "read ", .remark .comment "or not", .text .stylesheet "more"] :=
    .rel _ _ (.among [.text .prose "read ", .remark .comment "or not"] []
      (.retype .prose .stylesheet "more"))
  have hattributes : Node.Edited [.element "a" [⟨"href", .text "/"⟩] [.text .prose "read more"]]
      [.element "a" [⟨"class", .words ["wide", "red"]⟩, ⟨"href", .none⟩]
        [.text .prose "read more"]] :=
    .rel _ _ (.attributes ⟨by decide, by decide⟩ _)
  have hlink : Node.Edited [.element "link" [⟨"rel", .words ["canonical"]⟩] []]
      [.element "link" [] []] :=
    .rel _ _ (.attributes ⟨by decide, by decide⟩ _)
  have htext := (hsplit.trans _ _ _ hremark).trans _ _ _ hretype
  exact Node.Edited.append (hattributes.trans _ _ _ (Node.Edited.inside "a" _ htext)) hlink

/-- All attributes taken away but the styles. -/
def onlyStyle (as : List Attribute) : List Attribute :=
  as.filter (·.name = "style")

theorem keepsStyle_onlyStyle : Node.KeepsStyle onlyStyle := by
  intro as
  simp [onlyStyle, Attribute.isGiven, List.find?_filter]

theorem evaluate_plainLink_eq :
    (plainLink.Edited partedLink ∧ plainLink.evaluate = partedLink.evaluate)
      ∧ Node.KeepsStyle onlyStyle
      ∧ (plainLink.relinked onlyStyle).evaluate = plainLink.evaluate :=
  ⟨⟨edited_plainLink, evaluate_eq_of_edited.1 plainLink partedLink edited_plainLink⟩,
    keepsStyle_onlyStyle, evaluate_eq_of_edited.2 plainLink onlyStyle keepsStyle_onlyStyle⟩

end Page

end PageAudit
