import Mathlib.Logic.Relation
import PageAudit.Proofs.Dom.Alike

/-!
# Edits that nothing reads

An edit of a list of nodes puts in a remark, splits a text, takes a text of one kind for one of
another, or exchanges the attributes of an element for others that read alike, at any place and at
any depth (`Node.Edit`). Edits made and undone in any order lead from one page to another
(`Page.Edited`).

An edit adds no element and takes none away. Every element stays where it was, alike and with alike
elements below it (`Node.Edit.alikeWithin`), since the texts stay what they were
(`Node.Edit.textOf_eq`).
-/

namespace PageAudit

namespace Node

theorem textOf_append : ∀ ns ms : List Node, textOf (ns ++ ms) = textOf ns ++ textOf ms
  | [], ms => by simp [textOf]
  | node :: ns, ms => by simp [textOf, textOf_append ns ms, String.append_assoc]

theorem elementsOf_append (ancestors : List String) :
    ∀ (ns ms : List Node) (n : Nat),
      elementsOf ancestors n (ns ++ ms)
        = elementsOf ancestors n ns
          ++ elementsOf ancestors (n + (elementsOf ancestors n ns).length) ms
  | [], ms, n => by simp [elementsOf]
  | node :: ns, ms, n => by simp [elementsOf, elementsOf_append ancestors ns ms, Nat.add_assoc]

/-- An edit of nodes in a row that nothing reads: a remark is added, a text is split or changes its
kind, or attributes that are not read are exchanged. It may be made anywhere in the nodes. -/
inductive Edit : List Node → List Node → Prop where
  | remark (kind : RemarkKind) (s : String) : Edit [] [.remark kind s]
  | split (kind : TextKind) (s t : String) :
      Edit [.text kind (s ++ t)] [.text kind s, .text kind t]
  | retype (kind kind' : TextKind) (s : String) : Edit [.text kind s] [.text kind' s]
  | attributes {name : String} {as bs : List Attribute} (h : Attribute.ReadAlike name as bs)
      (children : List Node) : Edit [.element name as children] [.element name bs children]
  | inside (name : String) (as : List Attribute) {ns ms : List Node} (h : Edit ns ms) :
      Edit [.element name as ns] [.element name as ms]
  | among (before after : List Node) {ns ms : List Node} (h : Edit ns ms) :
      Edit (before ++ (ns ++ after)) (before ++ (ms ++ after))

namespace Edit

variable {ns ms : List Node}

theorem textOf_eq (h : Edit ns ms) : textOf ns = textOf ms := by
  induction h with
  | remark kind s => simp [textOf, textContent]
  | split kind s t => simp [textOf, textContent]
  | retype kind kind' s => simp [textOf, textContent]
  | attributes h children => simp [textOf, textContent]
  | inside name as _ ih => simp only [textOf, textContent, ih]
  | among before after _ ih => simp only [textOf_append, ih]

theorem alikeWithin (h : Edit ns ms) (ancestors : List String) (n : Nat) :
    List.Forall₂ Element.AlikeWithin (elementsOf ancestors n ns) (elementsOf ancestors n ms) := by
  have hsame : ∀ es : List Element, List.Forall₂ Element.AlikeWithin es es := fun es =>
    List.forall₂_same.mpr fun e _ => .refl e
  induction h generalizing ancestors n with
  | remark kind s => exact .nil
  | split kind s t => exact .nil
  | retype kind kind' s => exact .nil
  | @attributes name as bs h children =>
    have hbelow := hsame (elementsOf (name :: ancestors) (n + 1) children)
    have halike : (Element.mk n ancestors name as children).Alike
        ⟨n, ancestors, name, bs, children⟩ := ⟨rfl, rfl, rfl, h⟩
    simpa only [elementsOf, elements, List.append_nil] using
      List.Forall₂.cons ⟨halike, Element.alike_of_alikeWithin hbelow⟩ hbelow
  | @inside name as ns ms h ih =>
    have hbelow := ih (name :: ancestors) (n + 1)
    have htext : (Element.mk n ancestors name as ns).text
        = (Element.mk n ancestors name as ms).text := by
      simp only [Element.text, textContent, h.textOf_eq]
    have halike : (Element.mk n ancestors name as ns).Alike ⟨n, ancestors, name, as, ms⟩ :=
      ⟨rfl, rfl, htext, .refl name as⟩
    simpa only [elementsOf, elements, List.append_nil] using
      List.Forall₂.cons ⟨halike, Element.alike_of_alikeWithin hbelow⟩ hbelow
  | among before after h ih =>
    have hns := ih ancestors (n + (elementsOf ancestors n before).length)
    -- No element is added or taken away, so those after the edit keep their numbers.
    rw [elementsOf_append, elementsOf_append, elementsOf_append, elementsOf_append, hns.length_eq]
    exact List.rel_append (hsame _) (List.rel_append hns (hsame _))

end Edit

/-! ## Edits made and undone -/

/-- Edits, each made or undone, lead from one list of nodes to the other. -/
def Edited : List Node → List Node → Prop :=
  Relation.EqvGen Edit

namespace Edited

variable {ns ms : List Node}

/-- What every edit keeps is the same at both ends. -/
theorem value_eq {β : Type} {f : List Node → β} (hf : ∀ ns ms, Edit ns ms → f ns = f ms)
    (h : Edited ns ms) : f ns = f ms := by
  induction h with
  | rel ns ms hedit => exact hf ns ms hedit
  | refl ns => rfl
  | symm ns ms _ ih => exact ih.symm
  | trans ns ms ls _ _ ih ih' => exact ih.trans ih'

/-- Edits may be made wherever a change to the nodes turns every edit into one. -/
theorem map {g : List Node → List Node} (hg : ∀ ns ms, Edit ns ms → Edit (g ns) (g ms))
    (h : Edited ns ms) : Edited (g ns) (g ms) := by
  induction h with
  | rel ns ms hedit => exact .rel _ _ (hg ns ms hedit)
  | refl ns => exact .refl _
  | symm ns ms _ ih => exact .symm _ _ ih
  | trans ns ms ls _ _ ih ih' => exact .trans _ _ _ ih ih'

theorem inside (name : String) (as : List Attribute) (h : Edited ns ms) :
    Edited [.element name as ns] [.element name as ms] :=
  h.map fun _ _ => .inside name as

theorem append {ns' ms' : List Node} (h : Edited ns ms) (h' : Edited ns' ms') :
    Edited (ns ++ ns') (ms ++ ms') := by
  have hfirst : Edited (ns ++ ns') (ms ++ ns') := h.map fun _ _ => .among [] ns'
  have hsecond : Edited (ms ++ ns') (ms ++ ms') := by
    have := h'.map fun _ _ hedit => Edit.among ms [] hedit
    simpa only [List.append_nil] using this
  exact hfirst.trans _ _ _ hsecond

end Edited

/-! ## Links -/

section Links

variable (f : List Attribute → List Attribute)

mutual

/-- The node with the attributes of every `link` in it exchanged. -/
def relinked : Node → Node
  | text kind s => text kind s
  | remark kind s => remark kind s
  | element name attributes children =>
    element name (if name = "link" then f attributes else attributes) (relinkedAll children)

/-- The same for nodes in a row. -/
def relinkedAll : List Node → List Node
  | [] => []
  | node :: nodes => relinked node :: relinkedAll nodes

end

/-- No element gains or loses a style by the exchange. -/
def KeepsStyle : Prop :=
  ∀ as, Attribute.isGiven (f as) "style" = Attribute.isGiven as "style"

variable {f}

theorem KeepsStyle.readAlike (hf : KeepsStyle f) (name : String) (as : List Attribute) :
    Attribute.ReadAlike name as (if name = "link" then f as else as) := by
  split
  case isTrue hname =>
    subst hname
    exact ⟨by simp [Attribute.presenceRead, hf as], by simp [Attribute.valueRead]⟩
  case isFalse => exact .refl name as

mutual

theorem edited_relinked (hf : KeepsStyle f) : ∀ node : Node, Edited [node] [relinked f node]
  | text _ _ => .refl _
  | remark _ _ => .refl _
  | element name as children => by
    have hattributes : Edited [element name as children]
        [element name (if name = "link" then f as else as) children] :=
      .rel _ _ (.attributes (hf.readAlike name as) children)
    exact hattributes.trans _ _ _ (Edited.inside name _ (edited_relinkedAll hf children))

/-- Of a link nothing is read but whether it has a style. -/
theorem edited_relinkedAll (hf : KeepsStyle f) :
    ∀ nodes : List Node, Edited nodes (relinkedAll f nodes)
  | [] => .refl _
  | node :: nodes => (edited_relinked hf node).append (edited_relinkedAll hf nodes)

end

end Links

end Node

namespace Page

/-- The pages differ only by edits that nothing reads. -/
def Edited (p p' : Page) : Prop :=
  Node.Edited p.nodes p'.nodes

/-- The page with the attributes of its links exchanged. -/
def relinked (f : List Attribute → List Attribute) (p : Page) : Page :=
  ⟨Node.relinkedAll f p.nodes⟩

end Page

end PageAudit
