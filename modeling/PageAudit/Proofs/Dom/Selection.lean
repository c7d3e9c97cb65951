import PageAudit.Proofs.Dom.Place

/-!
# What a query selects

What a query asks of an element is said without a search (`Query.Asks`). A query selects the
elements of its scope that no template encloses and that it asks for (`Query.accepts_iff`), in
document order. A list in document order is given by its members (`Page.eq_of_mem_iff`), so the same
elements in the same order are found by a traversal that starts at the top of the page and never
goes below a template (`Page.descend`), and by leaving out of the whole page what is not in the
scope (`Page.queryAll_spec`).
-/

namespace PageAudit

/-! ## What is asked of an element -/

/-- The element has what the condition asks of its attribute. -/
def Condition.IsMet (e : Element) (a : String) : Condition → Prop
  | present => ∃ b ∈ e.attributes, b.name = a
  | equals value => e.attributeText? a = some value
  | never => False

theorem Condition.holds_iff (e : Element) (a : String) : ∀ c : Condition,
    c.holds e a ↔ c.IsMet e a
  | present => by simp [holds, IsMet, Element.hasAttribute, Element.attribute?]
  | equals value => by simp [holds_equals, IsMet]
  | never => by simp [holds, IsMet]

namespace Query

/-- The element has one of the names, and meets every condition on its attributes. -/
structure Asks (q : Query) (e : Element) : Prop where
  name : ∀ names ∈ q.names, e.name ∈ names
  attributes : ∀ ac ∈ q.attributes, ac.2.IsMet e ac.1

theorem asks_iff (q : Query) (e : Element) :
    q.Asks e ↔ q.admits e.name && q.attributes.all fun (a, c) => c.holds e a := by
  have hname : q.admits e.name ↔ ∀ names ∈ q.names, e.name ∈ names := by
    unfold admits
    cases q.names <;> simp
  rw [Bool.and_eq_true, hname, List.all_eq_true]
  simp only [Condition.holds_iff]
  exact ⟨fun h => ⟨h.name, h.attributes⟩, fun h => ⟨h.1, h.2⟩⟩

instance (q : Query) : DecidablePred q.Asks :=
  fun e => decidable_of_iff _ (q.asks_iff e).symm

theorem asks_names {names : List String} {e : Element} : Asks ⟨some names, []⟩ e ↔ e.name ∈ names :=
  ⟨fun h => h.name names rfl, fun h => ⟨fun _ hnames => by cases hnames; exact h, by simp⟩⟩

theorem asks_named {name : String} {e : Element} : (named name).Asks e ↔ e.name = name :=
  asks_names.trans List.mem_singleton

theorem accepts_iff (q : Query) (e : Element) : q.accepts e ↔ q.Asks e ∧ e.isLive := by
  rw [accepts_eq, Bool.and_eq_true, asks_iff]

end Query

/-! ## From the top -/

namespace Node

section Descend
variable (isScope : Element → Bool)

mutual

/-- The elements below a scope that are met from the top if nothing below a template is visited.
Numbers are counted on past what is left out. -/
def descend (below : Bool) (ancestors : List String) (n : Nat) : Node → List Element
  | text _ _ => []
  | remark _ _ => []
  | element name attributes children =>
    let e : Element := ⟨n, ancestors, name, attributes, children⟩
    let inside := if name = templateName then []
      else descendAll (below || isScope e) (name :: ancestors) (n + 1) children
    if below then e :: inside else inside

/-- The same for nodes in a row. -/
def descendAll (below : Bool) (ancestors : List String) (n : Nat) : List Node → List Element
  | [] => []
  | node :: nodes =>
    descend below ancestors n node
      ++ descendAll below ancestors (n + (elements ancestors n node).length) nodes

end

variable {isScope}

mutual

theorem descend_sublist : ∀ (node : Node) (below : Bool) (ancestors : List String) (n : Nat),
    (descend isScope below ancestors n node).Sublist (elements ancestors n node)
  | text _ _, _, _, _ => .slnil
  | remark _ _, _, _, _ => .slnil
  | element name attributes children, below, ancestors, n => by
    have hinside : (if name = templateName then []
        else descendAll isScope (below || isScope ⟨n, ancestors, name, attributes, children⟩)
          (name :: ancestors) (n + 1) children).Sublist
        (elementsOf (name :: ancestors) (n + 1) children) := by
      split
      · exact List.nil_sublist _
      · exact descendAll_sublist children _ _ _
    unfold descend
    simp only [elements]
    split
    · exact hinside.cons_cons _
    · exact hinside.cons _

theorem descendAll_sublist : ∀ (nodes : List Node) (below : Bool) (ancestors : List String)
    (n : Nat), (descendAll isScope below ancestors n nodes).Sublist (elementsOf ancestors n nodes)
  | [], _, _, _ => .slnil
  | node :: nodes, below, ancestors, n =>
    (descend_sublist node below ancestors n).append (descendAll_sublist nodes below ancestors _)

end

/-- The element is below one of these that is a scope. -/
def IsBelow (isScope : Element → Bool) (es : List Element) (e : Element) : Prop :=
  ∃ a ∈ es, isScope a ∧ e ∈ a.descendants

variable {e : Element} {es es' : List Element}

theorem isBelow_cons {a : Element} : IsBelow isScope (a :: es) e ↔
    (isScope a ∧ e ∈ a.descendants) ∨ IsBelow isScope es e := by
  simp only [IsBelow, List.exists_mem_cons_iff]

theorem isBelow_append : IsBelow isScope (es ++ es') e ↔
    IsBelow isScope es e ∨ IsBelow isScope es' e := by
  simp only [IsBelow, List.mem_append, or_and_right, exists_or]

theorem IsBelow.mem_elements {node : Node} {ancestors : List String} {n : Nat}
    (h : IsBelow isScope (elements ancestors n node) e) : e ∈ elements ancestors n node := by
  obtain ⟨a, ha, -, hbelow⟩ := h
  exact (descendants_infix_elements node ha).subset hbelow

theorem IsBelow.mem_elementsOf {nodes : List Node} {ancestors : List String} {n : Nat}
    (h : IsBelow isScope (elementsOf ancestors n nodes) e) : e ∈ elementsOf ancestors n nodes := by
  obtain ⟨a, ha, -, hbelow⟩ := h
  exact (descendants_infix_elementsOf nodes ha).subset hbelow

/-- An element that no template encloses, and what is visited below it. -/
theorem mem_top {top : Element} {below : Bool} (hlive : top.isLive)
    (hinside : e ∈ es ↔ e ∈ top.descendants ∧ e.isLive
      ∧ ((below ∨ isScope top) ∨ IsBelow isScope top.descendants e)) :
    e ∈ (if below then top :: es else es) ↔ e ∈ top :: top.descendants ∧ e.isLive
      ∧ (below ∨ IsBelow isScope (top :: top.descendants) e) := by
  have hin : IsBelow isScope top.descendants e → e ∈ top.descendants := IsBelow.mem_elementsOf
  have hdescend : e ∈ (if below then top :: es else es) ↔ (below ∧ e = top) ∨ e ∈ es := by
    cases below <;> simp
  rw [hdescend, hinside, isBelow_cons, List.mem_cons]
  by_cases heq : e = top
  · have hself := top.not_mem_descendants_self
    subst heq
    simp [hself, hlive, mt hin hself]
  · simp only [heq, and_false, false_or]
    refine and_congr_right fun hmem => and_congr_right fun _ => ?_
    simp only [hmem, and_true, or_assoc]

mutual

theorem mem_descend : ∀ (node : Node) (below : Bool) {ancestors : List String} (n : Nat),
    templateName ∉ ancestors → (e ∈ descend isScope below ancestors n node ↔
      e ∈ elements ancestors n node ∧ e.isLive
        ∧ (below ∨ IsBelow isScope (elements ancestors n node) e))
  | text _ _, _, _, _, _ => by simp [descend, elements]
  | remark _ _, _, _, _, _ => by simp [descend, elements]
  | element name attributes children, below, ancestors, n, h => by
    let top : Element := ⟨n, ancestors, name, attributes, children⟩
    have hlive : top.isLive := by simpa [Element.isLive] using h
    have hinside : (e ∈ if name = templateName then []
        else descendAll isScope (below || isScope top) (name :: ancestors) (n + 1) children) ↔
        e ∈ top.descendants ∧ e.isLive
          ∧ ((below ∨ isScope top) ∨ IsBelow isScope top.descendants e) := by
      split
      · rename_i hname
        have hdead : e ∈ top.descendants → ¬ e.isLive :=
          Element.not_isLive_of_mem_descendants hname
        simpa using fun hmem hlive => absurd hlive (hdead hmem)
      · rename_i hname
        rw [← Bool.or_eq_true]
        exact mem_descendAll children _ (n + 1) (by simp [h, Ne.symm hname])
    exact mem_top hlive hinside

/-- Below a template nothing is live, and all else is visited. -/
theorem mem_descendAll : ∀ (nodes : List Node) (below : Bool) {ancestors : List String} (n : Nat),
    templateName ∉ ancestors → (e ∈ descendAll isScope below ancestors n nodes ↔
      e ∈ elementsOf ancestors n nodes ∧ e.isLive
        ∧ (below ∨ IsBelow isScope (elementsOf ancestors n nodes) e))
  | [], _, _, _, _ => by simp [descendAll, elementsOf]
  | node :: nodes, below, ancestors, n, h => by
    have hfirst := mem_descend node below n h
    have hrest := mem_descendAll nodes below (n + (elements ancestors n node).length) h
    -- What is below an element of one part is in that part, and in no other.
    have hapart : e ∈ elements ancestors n node →
        e ∉ elementsOf ancestors (n + (elements ancestors n node).length) nodes := fun h h' =>
      absurd (number_of_mem_elements h).2 (Nat.not_lt.mpr (number_of_mem_elementsOf h').1)
    simp only [descendAll, elementsOf, List.mem_append, isBelow_append, hfirst, hrest]
    by_cases he : e ∈ elements ancestors n node
    · simp [he, hapart he, mt IsBelow.mem_elementsOf (hapart he)]
    · simp [he, mt IsBelow.mem_elements he]

end

end Descend

end Node

/-! ## Pages -/

namespace Page

variable {p : Page} {within : Option Element} {e w : Element} {es es' : List Element}

/-- What is below a scope, or on all of the page, as a traversal from the top of the page meets it
that never goes below a template. -/
def descend (p : Page) (within : Option Element) : List Element :=
  Node.descendAll (fun e => within.any (·.number == e.number)) within.isNone [] 0 p.nodes

theorem mem_scope (hwithin : ∀ w ∈ within, w ∈ p.elements) :
    e ∈ p.scope within ↔ e ∈ p.elements ∧ (within.isNone
      ∨ Node.IsBelow (fun a => within.any (·.number == a.number)) p.elements e) := by
  cases within with
  | none => simp [scope]
  | some w =>
    have hw := hwithin w rfl
    constructor
    · intro he
      exact ⟨(descendants_sublist hw).subset he, .inr ⟨w, hw, by simp, he⟩⟩
    · rintro ⟨-, hnone | ⟨a, ha, hnumber, hbelow⟩⟩
      · simp at hnone
      · obtain rfl : w = a := eq_of_number_eq hw ha (by simpa using hnumber)
        exact hbelow

theorem mem_descend (hwithin : ∀ w ∈ within, w ∈ p.elements) :
    e ∈ p.descend within ↔ e ∈ p.scope within ∧ ¬ p.InTemplate e := by
  have hdescend : e ∈ p.descend within ↔ e ∈ p.elements ∧ e.isLive ∧ (within.isNone
      ∨ Node.IsBelow (fun a => within.any (·.number == a.number)) p.elements e) :=
    Node.mem_descendAll p.nodes _ 0 List.not_mem_nil
  rw [hdescend, mem_scope hwithin, and_assoc, and_comm (a := e.isLive)]
  exact and_congr_right fun he => and_congr_right fun _ => isLive_iff he

theorem descend_sublist (p : Page) (within : Option Element) :
    (p.descend within).Sublist p.elements :=
  Node.descendAll_sublist p.nodes _ _ _

/-- Elements of a page in document order are given by which they are. -/
theorem eq_of_mem_iff (h : es.Sublist p.elements) (h' : es'.Sublist p.elements)
    (hmem : ∀ e, e ∈ es ↔ e ∈ es') : es = es' := by
  let before : Element → Element → Prop := fun e e' => e.number < e'.number
  have : Std.Irrefl before := ⟨fun e => Nat.lt_irrefl e.number⟩
  have : Std.Antisymm before := ⟨fun _ _ h h' => absurd h (Nat.lt_asymm h')⟩
  have hpairwise : p.elements.Pairwise before := p.pairwise_number
  exact (hpairwise.sublist h).eq_of_mem_iff (hpairwise.sublist h') hmem

theorem queryAll_sublist (hwithin : ∀ w ∈ within, w ∈ p.elements) (q : Query) :
    (p.queryAll q within).Sublist p.elements :=
  List.filter_sublist.trans (scope_sublist hwithin)

theorem mem_queryAll (hwithin : ∀ w ∈ within, w ∈ p.elements) {q : Query} :
    e ∈ p.queryAll q within ↔ e ∈ p.scope within ∧ ¬ p.InTemplate e ∧ q.Asks e := by
  rw [queryAll, Query.select, List.mem_filter, Query.accepts_iff, and_comm (a := q.Asks e)]
  refine and_congr_right fun he => ?_
  rw [isLive_iff ((scope_sublist hwithin).subset he)]

theorem queryAll_eq_filter_descend (hwithin : ∀ w ∈ within, w ∈ p.elements) (q : Query) :
    p.queryAll q within = (p.descend within).filter (q.Asks ·) := by
  refine eq_of_mem_iff (queryAll_sublist hwithin q)
    (List.filter_sublist.trans (p.descend_sublist within)) fun e => ?_
  rw [mem_queryAll hwithin, List.mem_filter, mem_descend hwithin, and_assoc, decide_eq_true_iff]

theorem mem_elements_of_mem_some (hw : w ∈ p.elements) : ∀ w' ∈ some w, w' ∈ p.elements := by
  rintro _ ⟨⟩
  exact hw

open scoped Classical in
theorem queryAll_within (hw : w ∈ p.elements) (q : Query) :
    p.queryAll q (some w) = (p.queryAll q).filter (· ∈ w.descendants) := by
  have hwithin := mem_elements_of_mem_some hw
  refine eq_of_mem_iff (queryAll_sublist hwithin q)
    (List.filter_sublist.trans (queryAll_sublist (by simp) q)) fun e => ?_
  rw [mem_queryAll hwithin, List.mem_filter, mem_queryAll (by simp), decide_eq_true_iff]
  simp only [scope]
  exact ⟨fun ⟨hbelow, hasked⟩ => ⟨⟨(descendants_sublist hw).subset hbelow, hasked⟩, hbelow⟩,
    fun ⟨⟨_, hasked⟩, hbelow⟩ => ⟨hbelow, hasked⟩⟩

/-- Below a template, or an element that a template encloses, there is nothing to select. -/
theorem queryAll_eq_nil (hw : w ∈ p.elements) (hdead : w.name = templateName ∨ p.InTemplate w)
    (q : Query) : p.queryAll q (some w) = [] := by
  rw [List.eq_nil_iff_forall_not_mem]
  intro e he
  obtain ⟨hbelow, hnone, -⟩ := (mem_queryAll (mem_elements_of_mem_some hw)).mp he
  rcases hdead with hname | ⟨a, ha, hname, hinside⟩
  · exact hnone ⟨w, hw, hname, hbelow⟩
  · exact hnone ⟨a, ha, hname, Element.descendants_subset hinside hbelow⟩

open scoped Classical in
/-- On every page, with any names and any conditions on attributes, and in the scope of any element
of the page or of all of it, a query selects in document order, each of them once, the elements of
the scope that are not below any template and that it asks for. This is what is asked for among the
elements that a traversal from the top meets if it never goes below a template. In the scope of an
element the query selects what it selects on all of the page, as far as it is below that element,
and nothing if the element is a template or below one. The first of what is selected is found by
itself, and there is something exactly if something is selected. -/
theorem queryAll_spec (hwithin : ∀ w ∈ within, w ∈ p.elements) (q : Query) :
    ((p.queryAll q within).Sublist p.elements
      ∧ (p.queryAll q within).Pairwise (·.number < ·.number)
      ∧ ∀ e, e ∈ p.queryAll q within ↔ e ∈ p.scope within ∧ ¬ p.InTemplate e ∧ q.Asks e)
    ∧ p.queryAll q within = (p.descend within).filter (q.Asks ·)
    ∧ (∀ w ∈ within, p.queryAll q within = (p.queryAll q).filter (· ∈ w.descendants)
      ∧ (w.name = templateName ∨ p.InTemplate w → p.queryAll q within = []))
    ∧ p.first? q within = (p.queryAll q within).head?
    ∧ (p.exists? q within ↔ p.queryAll q within ≠ []) := by
  have hfirst : p.first? q within = (p.queryAll q within).head? := List.head?_filter.symm
  refine ⟨⟨queryAll_sublist hwithin q, p.pairwise_number.sublist (queryAll_sublist hwithin q),
    fun e => mem_queryAll hwithin⟩, queryAll_eq_filter_descend hwithin q, ?_, hfirst, ?_⟩
  · rintro w hw
    obtain rfl : within = some w := hw
    have hmem := hwithin w rfl
    exact ⟨queryAll_within hmem q, fun hdead => queryAll_eq_nil hmem hdead q⟩
  · rw [exists?, hfirst]
    cases p.queryAll q within <;> simp

/-- Two sections, each with a link and with a template around another link. The first of them stands
in a template itself. -/
def twoSections : Page where
  nodes :=
    let link (value : Attribute.Value) : Node := .element "a" [⟨"class", value⟩] []
    let part (value : Attribute.Value) : Node :=
      .element "section" [] [link value, .element "template" [] [link value]]
    [.element "template" [] [part (.text "x y")], part (.words ["x", "y"])]

theorem queryAll_spec_twoSections :
    let q : Query := .named "a" [("class", .equals "x y"), ("class", .present)]
    ∃ first second, twoSections.InTemplate first
      ∧ twoSections.queryAll q (some first) = []
      ∧ (twoSections.queryAll q (some second)).map (·.number) = [6]
      ∧ twoSections.queryAll q (some second)
        = (twoSections.descend (some second)).filter (q.Asks ·)
      ∧ twoSections.first? q (some second) = (twoSections.queryAll q (some second)).head? := by
  intro q
  have hfirst : ∀ w ∈ some twoSections.elements[1], w ∈ twoSections.elements :=
    mem_elements_of_mem_some (List.getElem_mem _)
  have hsecond : ∀ w ∈ some twoSections.elements[5], w ∈ twoSections.elements :=
    mem_elements_of_mem_some (List.getElem_mem _)
  have hin : twoSections.InTemplate twoSections.elements[1] :=
    ⟨twoSections.elements[0], List.getElem_mem _, rfl, List.mem_cons_self⟩
  obtain ⟨-, -, hwithin, -⟩ := queryAll_spec hfirst q
  obtain ⟨-, hdescend, -, hhead, -⟩ := queryAll_spec hsecond q
  exact ⟨_, _, hin, (hwithin _ rfl).2 (.inr hin), by decide +kernel, hdescend, hhead⟩

end Page

end PageAudit
