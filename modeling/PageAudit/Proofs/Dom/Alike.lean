import Mathlib.Data.List.Forall2
import PageAudit.Dom.Page

/-!
# Elements that look alike

The rules read little of an element: whether a template encloses it, its name, its text and a few
of its attributes. Two elements that agree in this are alike, whatever else they carry and wherever
they stand. A query that asks of no other attributes cannot tell them apart
(`Query.onSight_of_reads`), so on two pages whose elements outside templates are alike, one by one,
it selects elements that are alike, one by one (`Page.Alike.queryAll`).
-/

namespace PageAudit

namespace Attribute

/-- The attributes of which a rule asks, on elements of this name, whether they are there. -/
def presenceRead (name : String) : List String :=
  "style" :: if name = "img" then ["alt"]
    else if name = "script" then ["src", "async", "defer"]
    else []

/-- The attributes of which a rule reads the value, on elements of this name. -/
def valueRead (name : String) : List String :=
  if name = "meta" then ["name"] else []

/-- Whether an attribute of this name is there. -/
def isGiven (as : List Attribute) (a : String) : Bool :=
  (as.find? (·.name = a)).isSome

/-- The value of the attribute of this name as one text. -/
def valueOf? (as : List Attribute) (a : String) : Option String :=
  (as.find? (·.name = a)).bind (·.value.text?)

/-- The attributes agree in all that is read of an element of this name. Neither their order nor the
form of a value shows, be it one text or a list of words. -/
structure ReadAlike (name : String) (as bs : List Attribute) : Prop where
  presence : ∀ a ∈ presenceRead name, isGiven as a = isGiven bs a
  value : ∀ a ∈ valueRead name, valueOf? as a = valueOf? bs a

theorem ReadAlike.refl (name : String) (as : List Attribute) : ReadAlike name as as :=
  ⟨fun _ _ => rfl, fun _ _ => rfl⟩

end Attribute

namespace Element

/-- The elements agree in all that a rule reads of an element. -/
structure Alike (e e' : Element) : Prop where
  isLive : e.isLive = e'.isLive
  name : e.name = e'.name
  text : e.text = e'.text
  attributes : Attribute.ReadAlike e.name e.attributes e'.attributes

theorem Alike.refl (e : Element) : e.Alike e :=
  ⟨rfl, rfl, rfl, .refl e.name e.attributes⟩

variable {e e' : Element} {a : String}

theorem Alike.hasAttribute (h : e.Alike e') (ha : a ∈ Attribute.presenceRead e.name) :
    e.hasAttribute a = e'.hasAttribute a :=
  h.attributes.presence a ha

theorem Alike.attributeText? (h : e.Alike e') (ha : a ∈ Attribute.valueRead e.name) :
    e.attributeText? a = e'.attributeText? a :=
  h.attributes.value a ha

variable {es es' : List Element} {β : Type}

/-- What alike elements have in common is the same in lists of them. -/
theorem map_eq_of_alike (h : List.Forall₂ Alike es es') {f : Element → β}
    (hf : ∀ e ∈ es, ∀ e', e.Alike e' → f e = f e') : es.map f = es'.map f := by
  have hboth : List.Forall₂ (fun e e' => e ∈ es ∧ e.Alike e') es es' :=
    (List.forall₂_and_left es es').mpr ⟨fun _ he => he, h⟩
  rw [← List.forall₂_eq_eq_eq, List.forall₂_map_left_iff, List.forall₂_map_right_iff]
  exact hboth.imp fun e e' he => hf e he.1 e' he.2

theorem countP_eq_of_alike (h : List.Forall₂ Alike es es') {f : Element → Bool}
    (hf : ∀ e ∈ es, ∀ e', e.Alike e' → f e = f e') : es.countP f = es'.countP f := by
  have hmap := congrArg (List.countP id) (map_eq_of_alike h hf)
  simpa only [List.countP_map, Function.id_comp] using hmap

/-- The elements are alike, and so are those below them, one by one. -/
structure AlikeWithin (e e' : Element) : Prop where
  alike : e.Alike e'
  descendants : List.Forall₂ Alike e.descendants e'.descendants

theorem AlikeWithin.refl (e : Element) : e.AlikeWithin e :=
  ⟨.refl e, List.forall₂_same.mpr fun e' _ => .refl e'⟩

theorem find?_alikeWithin (name : String) :
    ∀ {es es' : List Element}, List.Forall₂ AlikeWithin es es' →
      Option.Rel AlikeWithin (es.find? (·.name = name)) (es'.find? (·.name = name))
  | _, _, .nil => .none
  | e :: _, e' :: _, .cons he hes => by
    have hname : e.name = e'.name := he.alike.name
    simp only [List.find?_cons, hname]
    split
    · exact .some he
    · exact find?_alikeWithin name hes

theorem alike_of_alikeWithin (h : List.Forall₂ AlikeWithin es es') : List.Forall₂ Alike es es' :=
  h.imp fun _ _ he => he.alike

end Element

/-! ## Queries -/

namespace Condition

/-- The condition is one that some rule sets, for an attribute of elements of this name. -/
def Reads (name a : String) : Condition → Prop
  | present => a ∈ Attribute.presenceRead name
  | equals _ => a ∈ Attribute.valueRead name
  | never => True

theorem holds_equals (value : String) (e : Element) (a : String) :
    (equals value).holds e a = (e.attributeText? a == some value) := by
  simp only [holds, Element.hasAttribute, Element.attributeText?]
  cases e.attribute? a <;> simp

theorem holds_eq_of_alike {e e' : Element} (h : e.Alike e') {a : String} :
    ∀ c : Condition, c.Reads e.name a → c.holds e a = c.holds e' a
  | present, ha => h.hasAttribute ha
  | equals value, ha => by rw [holds_equals, holds_equals, h.attributeText? ha]
  | never, _ => rfl

end Condition

namespace Query

/-- An element of this name may be selected. -/
def admits (q : Query) (name : String) : Bool :=
  match q.names with
  | none => true
  | some names => names.contains name

theorem accepts_eq (q : Query) (e : Element) :
    q.accepts e
      = (q.admits e.name && q.attributes.all (fun (a, c) => c.holds e a) && e.isLive) := rfl

/-- The query does not tell elements apart that are alike. -/
def OnSight (q : Query) : Prop :=
  ∀ ⦃e e' : Element⦄, e.Alike e' → q.accepts e = q.accepts e'

theorem onSight_of_reads {q : Query}
    (hq : ∀ name, q.admits name → ∀ ac ∈ q.attributes, ac.2.Reads name ac.1) : q.OnSight := by
  intro e e' h
  rw [accepts_eq, accepts_eq, ← h.name, ← h.isLive]
  cases hname : q.admits e.name with
  -- An element of another name is turned down before any attribute is looked at.
  | false => rfl
  | true =>
    have hall : q.attributes.all (fun (a, c) => c.holds e a)
        = q.attributes.all (fun (a, c) => c.holds e' a) := by
      rw [Bool.eq_iff_iff, List.all_eq_true, List.all_eq_true]
      refine forall₂_congr fun ac hac => ?_
      exact iff_of_eq (congrArg (· = true) (ac.2.holds_eq_of_alike h (hq e.name hname ac hac)))
    rw [hall]

theorem onSight_names (names : List String) : OnSight ⟨some names, []⟩ :=
  onSight_of_reads (by simp)

theorem onSight_named (name : String) : (named name).OnSight :=
  onSight_names [name]

theorem select_alike {q : Query} (hq : q.OnSight) {es es' : List Element}
    (h : List.Forall₂ Element.Alike es es') :
    List.Forall₂ Element.Alike (q.select es) (q.select es') :=
  List.rel_filter (fun _ _ he => iff_of_eq (congrArg (· = true) (hq he))) h

theorem name_of_mem_select {name : String} {attributes : List (String × Condition)}
    {es : List Element} {e : Element} (he : e ∈ (named name attributes).select es) :
    e.name = name := by
  have haccepts := List.of_mem_filter he
  simp only [accepts, named, Bool.and_eq_true] at haccepts
  simpa using haccepts.1.1

end Query

/-! ## Pages -/

namespace Page

/-- The elements that no template encloses. -/
def visible (p : Page) : List Element :=
  p.elements.filter (·.isLive)

/-- Outside templates, the pages have elements that are alike, one by one. -/
def Alike (p p' : Page) : Prop :=
  List.Forall₂ Element.Alike p.visible p'.visible

theorem queryAll_eq_select_visible (p : Page) (q : Query) :
    p.queryAll q = q.select p.visible := by
  rw [visible, Query.select, List.filter_filter]
  refine List.filter_congr fun e _ => ?_
  rw [Query.accepts_eq]
  cases e.isLive <;> simp

theorem first?_eq_head?_queryAll (p : Page) (q : Query) : p.first? q = (p.queryAll q).head? :=
  List.head?_filter.symm

theorem exists?_eq_length_pos (p : Page) (q : Query) :
    p.exists? q = decide (0 < (p.queryAll q).length) := by
  rw [exists?, first?_eq_head?_queryAll]
  cases p.queryAll q <;> simp

variable {p p' : Page} {q : Query}

theorem Alike.queryAll (h : p.Alike p') (hq : q.OnSight) :
    List.Forall₂ Element.Alike (p.queryAll q) (p'.queryAll q) := by
  rw [queryAll_eq_select_visible, queryAll_eq_select_visible]
  exact Query.select_alike hq h

theorem Alike.exists?_eq (h : p.Alike p') (hq : q.OnSight) : p.exists? q = p'.exists? q := by
  rw [exists?_eq_length_pos, exists?_eq_length_pos, (h.queryAll hq).length_eq]

end Page

end PageAudit
