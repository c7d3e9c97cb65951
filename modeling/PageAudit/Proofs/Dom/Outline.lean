import PageAudit.Proofs.Dom.Alike

/-!
# What templates hide

`Page.pruned` empties every template of a page and leaves all else as it is. The elements that no
template encloses come through in their order, each with its name, its ancestors and its attributes
and with what is below it pruned in turn (`live_elementsOf_prunedAll`). Since a template has no
text, they also keep their texts (`Element.text_outline`).

So the elements outside templates of two pages that are equal once pruned have the same outlines,
and are alike (`Page.alike_of_pruned_eq`).
-/

namespace PageAudit

namespace Node

mutual

/-- The node with every template in it emptied. -/
def pruned : Node → Node
  | text kind s => text kind s
  | remark kind s => remark kind s
  | element name attributes children =>
    element name attributes (if name = templateName then [] else prunedAll children)

/-- The same for nodes in a row. -/
def prunedAll : List Node → List Node
  | [] => []
  | node :: nodes => pruned node :: prunedAll nodes

end

mutual

theorem pruned_pruned : ∀ node : Node, pruned (pruned node) = pruned node
  | text _ _ => rfl
  | remark _ _ => rfl
  | element name attributes children => by
    by_cases h : name = templateName
    · simp only [pruned, h, ↓reduceIte]
    · simp only [pruned, h, ↓reduceIte, prunedAll_prunedAll children]

theorem prunedAll_prunedAll : ∀ nodes : List Node, prunedAll (prunedAll nodes) = prunedAll nodes
  | [] => rfl
  | node :: nodes => by
    simp only [prunedAll, pruned_pruned node, prunedAll_prunedAll nodes]

end

mutual

theorem textContent_pruned : ∀ node : Node, (pruned node).textContent = node.textContent
  | text _ _ => rfl
  | remark _ _ => rfl
  | element name attributes children => by
    by_cases h : name = templateName
    · simp only [pruned, textContent, h, ↓reduceIte]
    · simp only [pruned, textContent, h, ↓reduceIte, textOf_prunedAll children]

theorem textOf_prunedAll : ∀ nodes : List Node, textOf (prunedAll nodes) = textOf nodes
  | [] => rfl
  | node :: nodes => by
    simp only [prunedAll, textOf, textContent_pruned node, textOf_prunedAll nodes]

end

mutual

theorem suffix_of_mem_elements {ancestors : List String} {e : Element} :
    ∀ (node : Node) {n : Nat}, e ∈ elements ancestors n node → ancestors <:+ e.ancestors
  | text _ _, n, h => by simp [elements] at h
  | remark _ _, n, h => by simp [elements] at h
  | element name attributes children, n, h => by
    simp only [elements, List.mem_cons] at h
    rcases h with rfl | h
    · exact List.suffix_rfl
    · exact (List.suffix_cons name ancestors).trans (suffix_of_mem_elementsOf children h)

/-- An element below the ancestors has them around it, whatever else there is in between. -/
theorem suffix_of_mem_elementsOf {ancestors : List String} {e : Element} :
    ∀ (nodes : List Node) {n : Nat}, e ∈ elementsOf ancestors n nodes → ancestors <:+ e.ancestors
  | [], n, h => by simp [elementsOf] at h
  | node :: nodes, n, h => by
    simp only [elementsOf, List.mem_append] at h
    rcases h with h | h
    · exact suffix_of_mem_elements node h
    · exact suffix_of_mem_elementsOf nodes h

end

theorem filter_isLive_elementsOf_of_template {ancestors : List String} (n : Nat)
    (nodes : List Node) (h : templateName ∈ ancestors) :
    (elementsOf ancestors n nodes).filter Element.isLive = [] := by
  rw [List.filter_eq_nil_iff]
  intro e he
  have hmem : templateName ∈ e.ancestors := (suffix_of_mem_elementsOf nodes he).mem h
  simp [Element.isLive, hmem]

end Node

/-- What shows of an element: all but its number and what the templates in it hold. -/
def Element.outline (e : Element) : Element :=
  { e with
    number := 0
    children := if e.name = templateName then [] else Node.prunedAll e.children }

namespace Node

mutual

theorem live_elements_pruned (ancestors : List String) :
    ∀ (node : Node) (m n : Nat),
      ((elements ancestors m node.pruned).filter Element.isLive).map Element.outline
        = ((elements ancestors n node).filter Element.isLive).map Element.outline
  | text _ _, _, _ => rfl
  | remark _ _, _, _ => rfl
  | element name attributes children, m, n => by
    have hhead : ∀ (k : Nat) (nodes : List Node),
        (Element.mk k ancestors name attributes nodes).isLive
          = !ancestors.contains templateName := fun _ _ => rfl
    by_cases h : name = templateName
    · subst h
      have hnone :
          (elementsOf (templateName :: ancestors) (n + 1) children).filter Element.isLive = [] :=
        filter_isLive_elementsOf_of_template (n + 1) children List.mem_cons_self
      simp only [pruned, elements, ↓reduceIte, elementsOf, List.filter_cons, hhead, hnone]
      split <;> rfl
    · have htail := live_elementsOf_prunedAll (name :: ancestors) children (m + 1) (n + 1)
      simp only [pruned, elements, h, ↓reduceIte, List.filter_cons, hhead]
      split
      · simp [Element.outline, h, prunedAll_prunedAll, htail]
      · exact htail

/-- Emptying the templates changes nothing about the elements outside them. -/
theorem live_elementsOf_prunedAll (ancestors : List String) :
    ∀ (nodes : List Node) (m n : Nat),
      ((elementsOf ancestors m (prunedAll nodes)).filter Element.isLive).map Element.outline
        = ((elementsOf ancestors n nodes).filter Element.isLive).map Element.outline
  | [], _, _ => rfl
  | node :: nodes, m, n => by
    simp only [prunedAll, elementsOf, List.filter_append, List.map_append]
    rw [live_elements_pruned ancestors node m n]
    rw [live_elementsOf_prunedAll ancestors nodes _ (n + (elements ancestors n node).length)]

end

end Node

namespace Element

theorem text_outline (e : Element) : e.outline.text = e.text := by
  by_cases h : e.name = templateName
  · simp [text, outline, Node.textContent, h]
  · simp [text, outline, Node.textContent, h, Node.textOf_prunedAll]

theorem alike_of_outline_eq {e e' : Element} (h : e.outline = e'.outline) : e.Alike e' := by
  have hlive : e.outline.isLive = e'.outline.isLive := by rw [h]
  have hname : e.outline.name = e'.outline.name := by rw [h]
  have htext : e.outline.text = e'.outline.text := by rw [h]
  have hattributes :
      Attribute.ReadAlike e.outline.name e.outline.attributes e'.outline.attributes := by
    rw [h]
    exact .refl _ _
  rw [text_outline, text_outline] at htext
  exact ⟨hlive, hname, htext, hattributes⟩

end Element

namespace Page

/-- The page with every template in it emptied. -/
def pruned (p : Page) : Page :=
  ⟨Node.prunedAll p.nodes⟩

variable {p p' : Page}

theorem map_outline_visible_pruned (p : Page) :
    p.pruned.visible.map Element.outline = p.visible.map Element.outline :=
  Node.live_elementsOf_prunedAll [] p.nodes 0 0

theorem alike_of_pruned_eq (h : p.pruned = p'.pruned) : p.Alike p' := by
  have houtlines : p.visible.map Element.outline = p'.visible.map Element.outline := by
    rw [← map_outline_visible_pruned p, ← map_outline_visible_pruned p', h]
  rw [← List.forall₂_eq_eq_eq, List.forall₂_map_left_iff, List.forall₂_map_right_iff]
    at houtlines
  exact houtlines.imp fun _ _ => Element.alike_of_outline_eq

end Page

end PageAudit
