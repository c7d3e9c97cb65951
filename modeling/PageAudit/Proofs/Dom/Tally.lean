import PageAudit.Proofs.Dom.Selection

/-!
# Counts by recursion over the tree

`Node.tally` counts elements by going down the tree and never into a template. It knows nothing of
places and of queries, but it counts what no template encloses (`Page.tally_eq_countP`), so what a
query selects can be counted in this way (`Page.tally_eq_countP_queryAll`).
-/

namespace PageAudit

namespace Node

/-- An element of this name. -/
def isNamed (name : String) : Node → Bool
  | text _ _ => false
  | remark _ _ => false
  | element name' _ _ => name' = name

/-- An attribute of this name is there, whatever its value. -/
def gives (a : String) : Node → Bool
  | text _ _ => false
  | remark _ _ => false
  | element _ attributes _ => attributes.any (·.name = a)

section Tally
variable (counts : Node → Bool)

mutual

/-- How many elements count, of a node and of what is in it, if nothing in a template does. -/
def tally : Node → Nat
  | text _ _ => 0
  | remark _ _ => 0
  | element name attributes children =>
    (if counts (element name attributes children) then 1 else 0)
      + if name = templateName then 0 else tallyAll children

/-- The same for nodes in a row. -/
def tallyAll : List Node → Nat
  | [] => 0
  | node :: nodes => tally node + tallyAll nodes

end

end Tally

end Node

namespace Element

/-- The element taken out of its place. -/
def node (e : Element) : Node :=
  .element e.name e.attributes e.children

theorem isNamed_node (e : Element) (name : String) : e.node.isNamed name ↔ e.name = name := by
  simp [node, Node.isNamed]

theorem gives_node (e : Element) (a : String) : e.node.gives a = e.hasAttribute a := by
  rw [node, Node.gives, hasAttribute, attribute?, Bool.eq_iff_iff, List.any_eq_true,
    List.find?_isSome]

end Element

namespace Node

variable {counts : Node → Bool}

mutual

theorem tally_eq_countP : ∀ (node : Node) {ancestors : List String} (n : Nat),
    templateName ∉ ancestors →
    tally counts node = ((elements ancestors n node).filter (·.isLive)).countP (counts ·.node)
  | text _ _, _, _, _ => rfl
  | remark _ _, _, _, _ => rfl
  | element name attributes children, ancestors, n, h => by
    have hlive : (Element.mk n ancestors name attributes children).isLive := by
      simpa [Element.isLive] using h
    have hbelow : (if name = templateName then 0 else tallyAll counts children)
        = ((elementsOf (name :: ancestors) (n + 1) children).filter (·.isLive)).countP
            (counts ·.node) := by
      split
      · rename_i hname
        have hmem : templateName ∈ name :: ancestors := by simp [hname]
        rw [filter_isLive_elementsOf_of_template _ _ hmem, List.countP_nil]
      · rename_i hname
        exact tallyAll_eq_countP children (n + 1) (by simp [h, Ne.symm hname])
    rw [tally, elements, List.filter_cons_of_pos hlive, List.countP_cons, hbelow, Nat.add_comm]
    rfl

/-- What is live below a template, or in one, is nothing, so the recursion stops there. -/
theorem tallyAll_eq_countP : ∀ (nodes : List Node) {ancestors : List String} (n : Nat),
    templateName ∉ ancestors →
    tallyAll counts nodes
      = ((elementsOf ancestors n nodes).filter (·.isLive)).countP (counts ·.node)
  | [], _, _, _ => rfl
  | node :: nodes, ancestors, n, h => by
    rw [tallyAll, elementsOf, List.filter_append, List.countP_append, tally_eq_countP node n h,
      tallyAll_eq_countP nodes _ h]

end

end Node

namespace Page

/-- How many elements of the page count, if nothing in a template does. -/
def tally (p : Page) (counts : Node → Bool) : Nat :=
  Node.tallyAll counts p.nodes

variable {counts : Node → Bool}

theorem tally_eq_countP (p : Page) : p.tally counts = p.visible.countP (counts ·.node) :=
  Node.tallyAll_eq_countP p.nodes 0 List.not_mem_nil

theorem queryAll_eq_filter_visible (p : Page) (q : Query) :
    p.queryAll q = p.visible.filter (q.Asks ·) := by
  rw [queryAll_eq_select_visible, Query.select]
  refine List.filter_congr fun e he => ?_
  have hlive : e.isLive := List.of_mem_filter he
  rw [Bool.eq_iff_iff, Query.accepts_iff, decide_eq_true_iff, and_iff_left hlive]

theorem first?_eq_find?_visible (p : Page) (q : Query) :
    p.first? q = p.visible.find? (q.Asks ·) := by
  rw [first?_eq_head?_queryAll, queryAll_eq_filter_visible, List.head?_filter]

theorem exists?_iff (p : Page) (q : Query) : p.exists? q ↔ ∃ e ∈ p.visible, q.Asks e := by
  rw [exists?, first?_eq_find?_visible, List.find?_isSome]
  simp only [decide_eq_true_iff]

theorem tally_eq_countP_queryAll (p : Page) {q : Query} {f : Element → Bool}
    (h : ∀ e : Element, counts e.node ↔ q.Asks e ∧ f e) :
    p.tally counts = (p.queryAll q).countP f := by
  rw [tally_eq_countP, queryAll_eq_filter_visible, List.countP_filter]
  refine List.countP_congr fun e _ => ?_
  rw [h, Bool.and_eq_true, decide_eq_true_iff, and_comm]

end Page

end PageAudit
