import PageAudit.Proofs.Dom.Place

/-!
# The texts of a page in their places

A passage is a text together with the elements around it. The text of an element can be gathered
from the passages of the whole page: those below the element, less those that a template is met
around when one goes outwards from them as far as the element (`Page.gathered`). The element itself
is looked at before the way ends there, so a template has no text, and whatever is further out does
not count (`Node.gather_passagesOf`).

What is gathered is the text that an element is given by recursion on its children, wherever the
element stands (`Page.text_spec`).
-/

namespace PageAudit

/-- A text, with the elements around it from the innermost one outwards. -/
structure Passage where
  around : List Element
  text : String

namespace Node

mutual

/-- The passages of a node in document order. The node stands in the elements `around`, and the
first element in it is numbered `n`. -/
def passages (around : List Element) (n : Nat) : Node → List Passage
  | text _ s => [⟨around, s⟩]
  | remark _ _ => []
  | element name attributes children =>
    passagesOf (⟨n, around.map (·.name), name, attributes, children⟩ :: around) (n + 1) children

/-- The passages of nodes in a row, numbered on. -/
def passagesOf (around : List Element) (n : Nat) : List Node → List Passage
  | [] => []
  | node :: nodes =>
    passages around n node
      ++ passagesOf around (n + (elements (around.map (·.name)) n node).length) nodes

end

end Node

/-- Whether a template is met on the way outwards. The way ends at the element numbered `stop`,
after a look at that element itself, or else at the top of the page. -/
def meetsTemplate (stop : Option Nat) : List Element → Bool
  | [] => false
  | e :: es =>
    if e.name = templateName then true
    else if stop = some e.number then false
    else meetsTemplate stop es

/-- The texts of passages, one after the other, less those in a template. -/
def gather (stop : Option Nat) (ts : List Passage) : String :=
  String.join ((ts.filter fun t => !meetsTemplate stop t.around).map (·.text))

/-- The passage is in the element with this number. -/
def Passage.isIn (t : Passage) (number : Nat) : Bool :=
  t.around.any (·.number == number)

namespace Page

/-- Every passage of the page, also those inside templates. -/
def passages (p : Page) : List Passage :=
  Node.passagesOf [] 0 p.nodes

/-- The text of an element of the page, or of all of it, gathered from passages. -/
def gathered (p : Page) : Option Element → String
  | none => gather none p.passages
  | some e => gather (some e.number) (p.passages.filter (·.isIn e.number))

/-- What a child adds to the text of its parent. The child stands below elements of the names
`ancestors`, and the first element in it is numbered `n`. -/
def part (p : Page) (ancestors : List String) (n : Nat) : Node → String
  | .text _ s => s
  | .remark _ _ => ""
  | .element name attributes children =>
    p.gathered (some ⟨n, ancestors, name, attributes, children⟩)

/-- What the children add, one by one. -/
def parts (p : Page) (ancestors : List String) (n : Nat) : List Node → List String
  | [] => []
  | node :: nodes =>
    p.part ancestors n node :: p.parts ancestors (n + (Node.elements ancestors n node).length) nodes

end Page

/-! ## On the way outwards -/

theorem gather_append (stop : Option Nat) (ts us : List Passage) :
    gather stop (ts ++ us) = gather stop ts ++ gather stop us := by
  simp only [gather, List.filter_append, List.map_append, String.join_append]

namespace Node

variable {around : List Element} {stop : Option Nat} {t : Passage} {e : Element}

mutual

theorem gather_passages : ∀ (node : Node) {around : List Element} {n : Nat},
    (∀ k ∈ stop, k < n) →
      gather stop (passages around n node)
        = if meetsTemplate stop around then "" else textContent node
  | text _ s, around, n, _ => by
    cases h : meetsTemplate stop around <;> simp [gather, passages, textContent, h]
  | remark _ _, around, n, _ => by simp [gather, passages, textContent]
  | element name attributes children, around, n, hstop => by
    have hne : stop ≠ some n := fun h => Nat.lt_irrefl n (hstop n h)
    rw [passages, gather_passagesOf children fun k hk => Nat.lt_succ_of_lt (hstop k hk),
      meetsTemplate, textContent, if_neg hne]
    by_cases hname : name = templateName
    · simp [hname]
    · simp [hname]

/-- If the way ends further out, a template around all of the nodes leaves nothing of them, and
otherwise they keep their text. -/
theorem gather_passagesOf : ∀ (nodes : List Node) {around : List Element} {n : Nat},
    (∀ k ∈ stop, k < n) →
      gather stop (passagesOf around n nodes)
        = if meetsTemplate stop around then "" else textOf nodes
  | [], _, _, _ => by simp [gather, passagesOf, textOf]
  | node :: nodes, around, n, hstop => by
    rw [passagesOf, gather_append, gather_passages node hstop,
      gather_passagesOf nodes fun k hk => Nat.lt_add_right _ (hstop k hk), textOf]
    cases meetsTemplate stop around <;> rfl

end

/-! ## The passages in an element -/

mutual

theorem around_of_mem_passages : ∀ (node : Node) {around : List Element} {n : Nat},
    t ∈ passages around n node → around <:+ t.around ∧ ∀ a ∈ t.around, a ∈ around ∨
      n ≤ a.number ∧ a.number < n + (elements (around.map (·.name)) n node).length
  | text _ s, around, n, ht => by
    obtain rfl := List.mem_singleton.mp ht
    exact ⟨List.suffix_rfl, fun a ha => .inl ha⟩
  | remark _ _, around, n, ht => by simp [passages] at ht
  | element name attributes children, around, n, ht => by
    obtain ⟨hsuffix, hbounds⟩ := around_of_mem_passagesOf children ht
    refine ⟨(List.suffix_cons _ _).trans hsuffix, fun a ha => ?_⟩
    simp only [elements, List.length_cons]
    rcases hbounds a ha with hmem | hin
    · rcases List.mem_cons.mp hmem with rfl | hmem
      · exact .inr ⟨Nat.le_refl _, Nat.lt_add_of_pos_right (Nat.succ_pos _)⟩
      · exact .inl hmem
    · simp only [List.map_cons] at hin
      exact .inr ⟨by omega, by omega⟩

/-- Around a passage are the elements around all of the nodes, and further in only elements of
those nodes. -/
theorem around_of_mem_passagesOf : ∀ (nodes : List Node) {around : List Element} {n : Nat},
    t ∈ passagesOf around n nodes → around <:+ t.around ∧ ∀ a ∈ t.around, a ∈ around ∨
      n ≤ a.number ∧ a.number < n + (elementsOf (around.map (·.name)) n nodes).length
  | [], around, n, ht => by simp [passagesOf] at ht
  | node :: nodes, around, n, ht => by
    simp only [elementsOf, List.length_append]
    rcases List.mem_append.mp ht with ht | ht
    · obtain ⟨hsuffix, hbounds⟩ := around_of_mem_passages node ht
      exact ⟨hsuffix, fun a ha => (hbounds a ha).imp_right fun h => ⟨h.1, by omega⟩⟩
    · obtain ⟨hsuffix, hbounds⟩ := around_of_mem_passagesOf nodes ht
      exact ⟨hsuffix, fun a ha => (hbounds a ha).imp_right fun h => ⟨by omega, by omega⟩⟩

end

variable {n k : Nat} {nodes : List Node} {node : Node}

theorem isIn_of_mem_around (h : e ∈ t.around) : t.isIn e.number :=
  List.any_eq_true.mpr ⟨e, h, by simp⟩

theorem filter_isIn_eq_nil {ts : List Passage} (h : ∀ t ∈ ts, ∀ a ∈ t.around, a.number ≠ k) :
    ts.filter (·.isIn k) = [] := by
  rw [List.filter_eq_nil_iff]
  intro t ht hin
  obtain ⟨a, ha, hnumber⟩ := List.any_eq_true.mp hin
  exact h t ht a ha (beq_iff_eq.mp hnumber)

theorem filter_isIn_passages_self (nodes : List Node) (n : Nat) :
    (passagesOf (e :: around) n nodes).filter (·.isIn e.number)
      = passagesOf (e :: around) n nodes := by
  rw [List.filter_eq_self]
  intro t ht
  exact isIn_of_mem_around ((around_of_mem_passagesOf nodes ht).1.mem List.mem_cons_self)

section Outside

variable (haround : ∀ a ∈ around, a.number ≠ k)

include haround

theorem filter_isIn_passages_eq_nil
    (hk : k < n ∨ n + (elements (around.map (·.name)) n node).length ≤ k) :
    (passages around n node).filter (·.isIn k) = [] := by
  refine filter_isIn_eq_nil fun t ht a ha => ?_
  rcases (around_of_mem_passages node ht).2 a ha with hmem | hbounds
  · exact haround a hmem
  · omega

theorem filter_isIn_passagesOf_eq_nil
    (hk : k < n ∨ n + (elementsOf (around.map (·.name)) n nodes).length ≤ k) :
    (passagesOf around n nodes).filter (·.isIn k) = [] := by
  refine filter_isIn_eq_nil fun t ht a ha => ?_
  rcases (around_of_mem_passagesOf nodes ht).2 a ha with hmem | hbounds
  · exact haround a hmem
  · omega

end Outside

mutual

theorem filter_isIn_passages : ∀ (node : Node) {around : List Element} {n : Nat},
    (∀ a ∈ around, a.number < n) → e ∈ elements (around.map (·.name)) n node →
      ∃ outer, (passages around n node).filter (·.isIn e.number)
        = passagesOf (e :: outer) (e.number + 1) e.children
  | text _ _, _, _, _, he => by simp [elements] at he
  | remark _ _, _, _, _, he => by simp [elements] at he
  | element name attributes children, around, n, haround, he => by
    rcases List.mem_cons.mp he with rfl | he
    · exact ⟨around, filter_isIn_passages_self children (n + 1)⟩
    · refine filter_isIn_passagesOf children (fun a ha => ?_) he
      rcases List.mem_cons.mp ha with rfl | ha
      · exact Nat.lt_succ_self _
      · exact Nat.lt_succ_of_lt (haround a ha)

/-- The passages in an element are those of its children, wherever it stands. -/
theorem filter_isIn_passagesOf : ∀ (nodes : List Node) {around : List Element} {n : Nat},
    (∀ a ∈ around, a.number < n) → e ∈ elementsOf (around.map (·.name)) n nodes →
      ∃ outer, (passagesOf around n nodes).filter (·.isIn e.number)
        = passagesOf (e :: outer) (e.number + 1) e.children
  | [], _, _, _, he => by simp [elementsOf] at he
  | node :: nodes, around, n, haround, he => by
    rw [passagesOf, List.filter_append]
    rcases List.mem_append.mp he with he | he
    · have hnumber := number_of_mem_elements he
      rw [filter_isIn_passagesOf_eq_nil (fun a ha => ?_) (.inl hnumber.2), List.append_nil]
      · exact filter_isIn_passages node haround he
      · have := haround a ha
        omega
    · have hnumber := number_of_mem_elementsOf he
      rw [filter_isIn_passages_eq_nil (fun a ha => ?_) (.inr hnumber.1), List.nil_append]
      · exact filter_isIn_passagesOf nodes (fun a ha => Nat.lt_add_right _ (haround a ha)) he
      · have := haround a ha
        omega

end

end Node

/-! ## Pages -/

namespace Page

variable {p : Page} {e : Element}

theorem gathered_none (p : Page) : p.gathered none = p.textContent :=
  Node.gather_passagesOf p.nodes (by simp)

theorem gathered_some (he : e ∈ p.elements) : p.gathered (some e) = e.text := by
  obtain ⟨outer, houter⟩ :=
    Node.filter_isIn_passagesOf p.nodes (List.forall_mem_nil fun a : Element => a.number < 0) he
  rw [gathered, passages, houter, Node.gather_passagesOf e.children (by simp), meetsTemplate,
    if_pos rfl, Element.text, Node.textContent]
  by_cases hname : e.name = templateName
  · simp [hname]
  · simp [hname]

theorem join_parts : ∀ {ancestors : List String} {n : Nat} (nodes : List Node),
    (∀ c ∈ Node.elementsOf ancestors n nodes, c ∈ p.elements) →
      String.join (p.parts ancestors n nodes) = Node.textOf nodes
  | _, _, [], _ => by simp [parts, Node.textOf]
  | ancestors, n, node :: nodes, h => by
    rw [Node.elementsOf, List.forall_mem_append] at h
    have hpart : p.part ancestors n node = node.textContent := by
      cases node with
      | text kind s => rfl
      | remark kind s => rfl
      | element name attributes children => exact gathered_some (h.1 _ List.mem_cons_self)
    rw [parts, String.join_cons, hpart, join_parts nodes h.2, Node.textOf]

/-- On every page, the text of the whole page and of every element of it is gathered from the
passages of the page, and it is nothing for a template and otherwise what the children add, one
after the other: a text itself, a remark nothing, an element its own text. So two elements of
the same name and with the same children have the same text, on whatever pages and wherever they
stand. -/
theorem text_spec (p : Page) :
    (p.textContent = p.gathered none ∧ p.gathered none = String.join (p.parts [] 0 p.nodes)) ∧
    ∀ e ∈ p.elements,
      e.text = p.gathered (some e) ∧
      p.gathered (some e) = (if e.name = templateName then ""
        else String.join (p.parts (e.name :: e.ancestors) (e.number + 1) e.children)) ∧
      ∀ p' : Page, ∀ e' ∈ p'.elements, e'.name = e.name → e'.children = e.children →
        p'.gathered (some e') = p.gathered (some e) := by
  refine ⟨⟨p.gathered_none.symm, ?_⟩, fun e he => ⟨(gathered_some he).symm, ?_, ?_⟩⟩
  · rw [gathered_none, join_parts p.nodes fun c hc => hc, textContent]
  · rw [gathered_some he, join_parts e.children (descendants_sublist he).subset, Element.text,
      Node.textContent]
  · intro p' e' he' hname hchildren
    rw [gathered_some he', gathered_some he, Element.text, Element.text, Node.textContent,
      Node.textContent, hname, hchildren]

/-- A paragraph inside a template, with a remark and with another template in it. -/
def shelved : Page where
  nodes :=
    [.element "section" [] [.text .prose "a", .element "template" [] [.text .prose "b",
      .element "p" [] [.text .prose "c", .remark .comment "d", .element "b" [] [.text .prose "e"],
        .element "template" [] [.text .prose "f"], .text .script "g"]], .text .prose "h"]]

theorem text_spec_shelved :
    let e := shelved.elements[2]
    e ∈ shelved.elements ∧ e.text = shelved.gathered (some e) ∧ e.text = "ceg" ∧
      shelved.parts (e.name :: e.ancestors) (e.number + 1) e.children = ["c", "", "e", "", "g"] ∧
      shelved.gathered (some e)
        = String.join (shelved.parts (e.name :: e.ancestors) (e.number + 1) e.children) := by
  intro e
  have he : e ∈ shelved.elements := List.getElem_mem _
  obtain ⟨htext, hparts, -⟩ := (text_spec shelved).2 e he
  exact ⟨he, htext, by decide +kernel, by decide +kernel, hparts⟩

end Page

end PageAudit
