import Mathlib.Data.List.Sort
import PageAudit.Proofs.Dom.Outline

/-!
# Where elements stand

The elements of a page are numbered in document order (`Node.map_number_elementsOf`), so an element
is known by its number, and one stands before another if its number is less. What is below an
element follows it in a row (`Node.descendants_infix_elementsOf`).

Every name among those of its ancestors is that of an element which it is below
(`Node.mem_ancestors_elementsOf`). So an element is live if it is not below a template
(`Page.isLive_iff`).
-/

namespace PageAudit

namespace Node

variable {ancestors : List String} {e a : Element} {name : String}

mutual

theorem map_number_elements (ancestors : List String) : ∀ (node : Node) (n : Nat),
    (elements ancestors n node).map (·.number) = List.range' n (elements ancestors n node).length
  | text _ _, _ => rfl
  | remark _ _, _ => rfl
  | element name attributes children, n => by
    simp only [elements, List.map_cons, List.length_cons, List.range'_succ,
      map_number_elementsOf (name :: ancestors) children (n + 1)]

/-- Elements are numbered one by one, in the order in which they stand. -/
theorem map_number_elementsOf (ancestors : List String) : ∀ (nodes : List Node) (n : Nat),
    (elementsOf ancestors n nodes).map (·.number)
      = List.range' n (elementsOf ancestors n nodes).length
  | [], _ => rfl
  | node :: nodes, n => by
    simp only [elementsOf, List.map_append, List.length_append,
      map_number_elements ancestors node n, map_number_elementsOf ancestors nodes,
      List.range'_append_1]

end

theorem number_of_mem_elementsOf {nodes : List Node} {n : Nat}
    (he : e ∈ elementsOf ancestors n nodes) :
    n ≤ e.number ∧ e.number < n + (elementsOf ancestors n nodes).length := by
  have hmem := List.mem_map_of_mem (f := (·.number)) he
  rwa [map_number_elementsOf, List.mem_range'_1] at hmem

theorem number_of_mem_elements {node : Node} {n : Nat} (he : e ∈ elements ancestors n node) :
    n ≤ e.number ∧ e.number < n + (elements ancestors n node).length := by
  have hmem := List.mem_map_of_mem (f := (·.number)) he
  rwa [map_number_elements, List.mem_range'_1] at hmem

mutual

theorem descendants_infix_elements : ∀ (node : Node) {ancestors : List String} {n : Nat},
    a ∈ elements ancestors n node → a.descendants <:+: elements ancestors n node
  | text _ _, _, _, h => by simp [elements] at h
  | remark _ _, _, _, h => by simp [elements] at h
  | element name attributes children, ancestors, n, h => by
    rcases List.mem_cons.mp h with rfl | h
    · exact (List.suffix_cons _ _).isInfix
    · exact (descendants_infix_elementsOf children h).trans (List.suffix_cons _ _).isInfix

/-- The elements below an element stand in a row. -/
theorem descendants_infix_elementsOf : ∀ (nodes : List Node) {ancestors : List String} {n : Nat},
    a ∈ elementsOf ancestors n nodes → a.descendants <:+: elementsOf ancestors n nodes
  | [], _, _, h => by simp [elementsOf] at h
  | node :: nodes, ancestors, n, h => by
    rcases List.mem_append.mp h with h | h
    · exact (descendants_infix_elements node h).trans (List.prefix_append _ _).isInfix
    · exact (descendants_infix_elementsOf nodes h).trans (List.suffix_append _ _).isInfix

end

/-! ## Ancestors -/

mutual

theorem mem_ancestors_elements : ∀ (node : Node) {ancestors : List String} {n : Nat},
    e ∈ elements ancestors n node → name ∈ e.ancestors →
      name ∈ ancestors ∨ ∃ a ∈ elements ancestors n node, a.name = name ∧ e ∈ a.descendants
  | text _ _, _, _, he, _ => by simp [elements] at he
  | remark _ _, _, _, he, _ => by simp [elements] at he
  | element name' attributes children, ancestors, n, he, hname => by
    rcases List.mem_cons.mp he with rfl | he
    · exact .inl hname
    · rcases mem_ancestors_elementsOf children he hname with hmem | ⟨a, ha, haname, hbelow⟩
      · rcases List.mem_cons.mp hmem with rfl | hmem
        · exact .inr ⟨_, List.mem_cons_self, rfl, he⟩
        · exact .inl hmem
      · exact .inr ⟨a, List.mem_cons_of_mem _ ha, haname, hbelow⟩

/-- A name among the ancestors is given, or it is that of an element around. -/
theorem mem_ancestors_elementsOf : ∀ (nodes : List Node) {ancestors : List String} {n : Nat},
    e ∈ elementsOf ancestors n nodes → name ∈ e.ancestors →
      name ∈ ancestors ∨ ∃ a ∈ elementsOf ancestors n nodes, a.name = name ∧ e ∈ a.descendants
  | [], _, _, he, _ => by simp [elementsOf] at he
  | node :: nodes, ancestors, n, he, hname => by
    rcases List.mem_append.mp he with he | he
    · exact (mem_ancestors_elements node he hname).imp_right fun ⟨a, ha, h⟩ =>
        ⟨a, List.mem_append_left _ ha, h⟩
    · exact (mem_ancestors_elementsOf nodes he hname).imp_right fun ⟨a, ha, h⟩ =>
        ⟨a, List.mem_append_right _ ha, h⟩

end

end Node

namespace Element

variable {a e : Element}

theorem suffix_of_mem_descendants (h : e ∈ a.descendants) :
    a.name :: a.ancestors <:+ e.ancestors :=
  Node.suffix_of_mem_elementsOf a.children h

theorem descendants_subset (h : e ∈ a.descendants) : e.descendants ⊆ a.descendants :=
  (Node.descendants_infix_elementsOf a.children h).subset

theorem number_of_mem_descendants (h : e ∈ a.descendants) :
    a.number < e.number ∧ e.number < a.number + 1 + a.descendants.length :=
  Node.number_of_mem_elementsOf h

theorem not_isLive_of_mem_descendants (ha : a.name = templateName) (h : e ∈ a.descendants) :
    ¬ e.isLive := by
  have hmem : templateName ∈ e.ancestors :=
    (suffix_of_mem_descendants h).mem (ha ▸ List.mem_cons_self)
  simp [isLive, hmem]

theorem not_mem_descendants_self (e : Element) : e ∉ e.descendants :=
  fun h => Nat.lt_irrefl _ (number_of_mem_descendants h).1

end Element

namespace Page

variable {p : Page} {e w : Element}

/-- The elements that a template encloses. -/
def InTemplate (p : Page) (e : Element) : Prop :=
  ∃ a ∈ p.elements, a.name = templateName ∧ e ∈ a.descendants

theorem isLive_iff (he : e ∈ p.elements) : e.isLive ↔ ¬ p.InTemplate e := by
  constructor
  · rintro hlive ⟨a, -, ha, hbelow⟩
    exact Element.not_isLive_of_mem_descendants ha hbelow hlive
  · intro hnone
    by_contra hdead
    have hmem : templateName ∈ e.ancestors := by simpa [Element.isLive] using hdead
    exact hnone ((Node.mem_ancestors_elementsOf p.nodes he hmem).resolve_left List.not_mem_nil)

/-- The number of an element is its position. -/
theorem map_number_elements (p : Page) :
    p.elements.map (·.number) = List.range p.elements.length := by
  rw [elements, Node.map_number_elementsOf, List.range_eq_range']

theorem pairwise_number (p : Page) : p.elements.Pairwise (·.number < ·.number) := by
  have hrange : (p.elements.map (·.number)).Pairwise (· < ·) := by
    rw [map_number_elements]
    exact List.pairwise_lt_range
  exact List.pairwise_map.mp hrange

/-- Elements of the same number are the same. -/
theorem eq_of_number_eq (he : e ∈ p.elements) (hw : w ∈ p.elements) (h : e.number = w.number) :
    e = w := by
  have hnodup : (p.elements.map (·.number)).Nodup := by
    rw [map_number_elements]
    exact List.nodup_range
  exact List.inj_on_of_nodup_map hnodup he hw h

theorem descendants_sublist (hw : w ∈ p.elements) : w.descendants.Sublist p.elements :=
  (Node.descendants_infix_elementsOf p.nodes hw).sublist

theorem scope_sublist {within : Option Element} (hwithin : ∀ w ∈ within, w ∈ p.elements) :
    (p.scope within).Sublist p.elements := by
  cases within with
  | none => exact .refl _
  | some w => exact descendants_sublist (hwithin w rfl)

end Page

end PageAudit
