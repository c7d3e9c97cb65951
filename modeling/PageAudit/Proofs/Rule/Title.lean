import PageAudit.Proofs.Dom.Tally
import PageAudit.Proofs.Rule.Titled
import PageAudit.Proofs.Text.Trimming

/-!
# What is said about the title

The first title outside templates decides alone what is said about titles, and of that one only the
length of its text counts, once blanks and byte order marks have been taken off its ends
(`Page.titlePart_of_some`). So it makes no difference what the text is padded with, or what comes
after the first title (`Node.SameToTitle.firstTitle?_eq`). The description and the viewport are
looked for among the names that `meta` elements have (`Page.title_spec`).
-/

namespace PageAudit

/-! ## The first title -/

namespace Node

/-- The nodes are the same up to the end of their first title outside templates. What comes after
it may be anything. -/
inductive SameToTitle : List Node → List Node → Prop where
  | title (attributes : List Attribute) (children ns ms : List Node) :
      SameToTitle (.element "title" attributes children :: ns)
        (.element "title" attributes children :: ms)
  | inside {name : String} (htitle : name ≠ "title") (htemplate : name ≠ templateName)
      (attributes : List Attribute) {children children' : List Node}
      (h : SameToTitle children children') (ns ms : List Node) :
      SameToTitle (.element name attributes children :: ns)
        (.element name attributes children' :: ms)
  | past (node : Node) {ns ms : List Node} (h : SameToTitle ns ms) :
      SameToTitle (node :: ns) (node :: ms)

/-- The first title among the nodes, if they stand where no template encloses them. -/
def firstTitle? (ancestors : List String) (n : Nat) (nodes : List Node) : Option Element :=
  ((elementsOf ancestors n nodes).filter (·.isLive)).find? (·.name = "title")

theorem firstTitle?_cons (ancestors : List String) (n : Nat) (node : Node) (nodes : List Node) :
    firstTitle? ancestors n (node :: nodes)
      = (((elements ancestors n node).filter (·.isLive)).find? (·.name = "title")).or
          (firstTitle? ancestors (n + (elements ancestors n node).length) nodes) := by
  rw [firstTitle?, elementsOf, List.filter_append, List.find?_append]
  rfl

theorem find?_elements {name : String} {ancestors : List String} (h : templateName ∉ ancestors)
    (n : Nat) (attributes : List Attribute) (children : List Node) :
    ((elements ancestors n (.element name attributes children)).filter (·.isLive)).find?
        (·.name = "title")
      = if name = "title" then some ⟨n, ancestors, name, attributes, children⟩
        else firstTitle? (name :: ancestors) (n + 1) children := by
  have hlive : (Element.mk n ancestors name attributes children).isLive := by
    simpa [Element.isLive] using h
  rw [elements, List.filter_cons_of_pos hlive, List.find?_cons]
  split <;> simp_all [firstTitle?]

theorem SameToTitle.firstTitle?_eq {ns ms : List Node} (h : SameToTitle ns ms) :
    ∀ {ancestors : List String} (n : Nat), templateName ∉ ancestors →
      ∃ e, firstTitle? ancestors n ns = some e ∧ firstTitle? ancestors n ms = some e := by
  induction h with
  | title attributes children ns ms =>
    intro ancestors n hlive
    simp [firstTitle?_cons, find?_elements hlive]
  | @inside name htitle htemplate attributes children children' h ns ms ih =>
    intro ancestors n hlive
    have hbelow : templateName ∉ name :: ancestors := by simp [hlive, Ne.symm htemplate]
    obtain ⟨e, he, he'⟩ := ih (n + 1) hbelow
    exact ⟨e, by simp [firstTitle?_cons, find?_elements hlive, htitle, he],
      by simp [firstTitle?_cons, find?_elements hlive, htitle, he']⟩
  | past node h ih =>
    intro ancestors n hlive
    obtain ⟨e, he, he'⟩ := ih (n + (elements ancestors n node).length) hlive
    rw [firstTitle?_cons, firstTitle?_cons, he, he']
    cases ((elements ancestors n node).filter (·.isLive)).find? (·.name = "title") with
    | none => exact ⟨e, rfl, rfl⟩
    | some first => exact ⟨first, rfl, rfl⟩

end Node

namespace Page

/-- The first title that no template encloses. -/
def firstTitle? (p : Page) : Option Element :=
  p.visible.find? (·.name = "title")

/-- What the issues on search engines say about titles, by title and description. -/
def titlePart (p : Page) : List (String × String) :=
  ((p.check .seo).filter
    (["Missing <title> tag", "Title too short", "Title too long"].contains ·.title)).map
      fun i => (i.title, i.description)

/-- What is to be said about a title of this length. -/
def lengthPart (length : Nat) : List (String × String) :=
  if length < 10 then
    [("Title too short", "Title is only " ++ toString length ++ " characters long.")]
  else if length ≤ 70 then []
  else [("Title too long", "Title is " ++ toString length ++ " characters long.")]

variable {p p' : Page} {e e' : Element}

theorem titlePart_eq (p : Page) :
    p.titlePart = (Rule.title p).toList.map fun i => (i.title, i.description) := by
  have hown : Category.seo.titles[0]?
      = some ["Missing <title> tag", "Title too short", "Title too long"] := rfl
  rw [titlePart, p.filter_check .seo 0 hown rfl]

theorem title_eq (p : Page) :
    Rule.title p = p.firstTitle?.elim (some Rule.titleMissing) fun e =>
      Rule.titleIssue? (Rule.titleLength e) := by
  have hfirst : p.first? (.named "title") = p.firstTitle? := by
    simp only [first?_eq_find?_visible, Query.asks_named, firstTitle?]
  rw [Rule.title, hfirst]
  cases p.firstTitle? with
  | none => simp only [Option.elim_none]
  | some e => simp only [Option.elim_some]

theorem titlePart_of_none (h : p.firstTitle? = none) : p.titlePart
    = [("Missing <title> tag", "The document does not have a <title> element.")] := by
  rw [titlePart_eq, title_eq, h]
  rfl

theorem titlePart_of_some (h : p.firstTitle? = some e) :
    p.titlePart = lengthPart (Text.dropEdges Text.isEdge e.text.toList).length := by
  have hlength : Rule.titleLength e = (Text.dropEdges Text.isEdge e.text.toList).length := by
    rw [Rule.titleLength, ← String.length_toList, Text.toList_trim]
  rw [titlePart_eq, title_eq, h, Option.elim_some, hlength, Rule.titleIssue?, lengthPart]
  simp only [Rule.titleMin, Rule.titleMax, ← Nat.not_le]
  split_ifs <;> rfl

theorem titlePart_of_padded (h : p.firstTitle? = some e) (h' : p'.firstTitle? = some e')
    {a b : List Char} (ha : ∀ c ∈ a, Text.isEdge c) (hb : ∀ c ∈ b, Text.isEdge c)
    (htext : e'.text.toList = a ++ e.text.toList ++ b) : p'.titlePart = p.titlePart := by
  rw [titlePart_of_some h, titlePart_of_some h', htext, Text.dropEdges_padded _ ha hb]

theorem titlePart_of_sameToTitle (h : Node.SameToTitle p.nodes p'.nodes) :
    p'.titlePart = p.titlePart := by
  have hlive : templateName ∉ ([] : List String) := List.not_mem_nil
  obtain ⟨e, he, he'⟩ := h.firstTitle?_eq 0 hlive
  rw [titlePart_of_some (e := e) he, titlePart_of_some (e := e) he']

/-! ## Named metadata -/

theorem hasMeta_iff (p : Page) (name : String) : Rule.hasMeta name p
    ↔ ∃ e ∈ p.visible, e.name = "meta" ∧ e.attributeText? "name" = some name := by
  rw [Rule.hasMeta, exists?_iff]
  refine exists_congr fun e => and_congr_right fun _ => ?_
  rw [Query.asks_iff]
  simp [Query.admits, Query.named, Condition.holds_equals]

theorem mem_check_of_lacking_meta {k : Nat} {name t : String} {issue : Issue} (p : Page)
    (hown : Category.seo.titles[k]? = some [t])
    (hrule : Category.seo.rules[k]? = some (Rule.lacking (Rule.hasMeta name) issue))
    (ht : issue.title = t) : t ∈ (p.check .seo).map (·.title)
      ↔ ¬ ∃ e ∈ p.visible, e.name = "meta" ∧ e.attributeText? "name" = some name := by
  rw [← hasMeta_iff, ← ht]
  exact Issue.mem_map_title_lacking (p.filter_check .seo k hown hrule) (ht ▸ List.mem_cons_self)

/-- What is said about titles is said of the first title that no template encloses. If there is
none, it is missing. Otherwise the length of its core decides, that is, of its text without the
blanks and byte order marks at its ends: below ten it is too short, above seventy too long, and the
length is given. Padding the text changes nothing, nor does a change to the page after that title.
The description, or the viewport, is missing if and only if no `meta` element outside templates has
it for its name. -/
theorem title_spec (p : Page) :
    (p.firstTitle? = none → p.titlePart
        = [("Missing <title> tag", "The document does not have a <title> element.")])
      ∧ (∀ e ∈ p.firstTitle?, ∃ core : List Char,
          (∀ s, Text.IsCore Text.isEdge e.text.toList s ↔ s = core)
            ∧ p.titlePart = lengthPart core.length)
      ∧ (∀ e ∈ p.firstTitle?, ∀ p' : Page, ∀ e' ∈ p'.firstTitle?, ∀ a b : List Char,
          (∀ c ∈ a, Text.isEdge c) → (∀ c ∈ b, Text.isEdge c) →
          e'.text.toList = a ++ e.text.toList ++ b → p'.titlePart = p.titlePart)
      ∧ (∀ p' : Page, Node.SameToTitle p.nodes p'.nodes → p'.titlePart = p.titlePart)
      ∧ ("Missing Meta Description" ∈ (p.check .seo).map (·.title)
          ↔ ¬ ∃ e ∈ p.visible, e.name = "meta" ∧ e.attributeText? "name" = some "description")
      ∧ ("Missing Viewport Meta Tag" ∈ (p.check .seo).map (·.title)
          ↔ ¬ ∃ e ∈ p.visible, e.name = "meta" ∧ e.attributeText? "name" = some "viewport") :=
  ⟨titlePart_of_none, fun _ he => ⟨_, fun _ => Text.isCore_iff, titlePart_of_some he⟩,
    fun _ he _ _ he' _ _ ha hb htext => titlePart_of_padded he he' ha hb htext,
    fun _ h => titlePart_of_sameToTitle h, p.mem_check_of_lacking_meta (k := 1) rfl rfl rfl,
    p.mem_check_of_lacking_meta (k := 2) rfl rfl rfl⟩

/-- What a title has whose text comes in parts. -/
def partsOfTitle : List Node :=
  [.text .prose "\n The", .remark .comment "first", .element "b" [] [.text .prose " end "]]

/-- That title, behind one in a template and before another one, and metadata with one name. -/
def titleInParts (later : List Node) : Page where
  nodes := [.element "head" [] [.element "template" [] [.element "title" [] []],
      .element "title" [] partsOfTitle, .element "title" [] later],
    .element "meta" [⟨"name", .words ["description"]⟩] []]

/-- The same text in one part, padded. -/
def titlePadded : Page where
  nodes := [.element "title" [] [.text .prose "\ufeff\n The end \t"]]

theorem title_spec_titleInParts :
    let p := titleInParts []
    (∃ e ∈ p.firstTitle?, p.titlePart = lengthPart 7
        ∧ ∃ e' ∈ titlePadded.firstTitle?, e'.text.toList = ['\ufeff'] ++ e.text.toList ++ ['\t']
          ∧ titlePadded.titlePart = p.titlePart)
      ∧ (titleInParts [.text .prose "Another"]).titlePart = p.titlePart
      ∧ (firstTitle? ⟨[]⟩ = none
        ∧ titlePart ⟨[]⟩
          = [("Missing <title> tag", "The document does not have a <title> element.")])
      ∧ "Missing Meta Description" ∉ (p.check .seo).map (·.title)
      ∧ "Missing Viewport Meta Tag" ∈ (p.check .seo).map (·.title) := by
  intro p
  let e : Element := ⟨3, ["head"], "title", [], partsOfTitle⟩
  have he : e ∈ p.firstTitle? := rfl
  have htext : e.text.toList = "\n The end ".toList := by decide +kernel
  have hcore : Text.IsCore Text.isEdge e.text.toList "The end".toList := by
    rw [Text.isCore_iff, htext]
    decide +kernel
  have hlater : Node.SameToTitle p.nodes (titleInParts [.text .prose "Another"]).nodes :=
    .inside (by decide) (by decide) [] (.past _ (.title [] partsOfTitle _ _)) _ _
  have hviewport : ¬ ∃ e ∈ p.visible, e.name = "meta" ∧ e.attributeText? "name" = some "viewport" :=
    by decide +kernel
  have hdescription : ∃ e ∈ p.visible, e.name = "meta"
      ∧ e.attributeText? "name" = some "description" := by decide +kernel
  obtain ⟨-, hlength, hpadded, hsame, hmissing, hmissing'⟩ := title_spec p
  obtain ⟨core, hunique, hpart⟩ := hlength e he
  have hseven : p.titlePart = lengthPart 7 := by rw [hpart, ← (hunique _).mp hcore]; rfl
  refine ⟨⟨e, he, hseven, ⟨0, [], "title", [], [.text .prose "\ufeff\n The end \t"]⟩, rfl, ?_, ?_⟩,
    hsame _ hlater, ⟨rfl, (title_spec ⟨[]⟩).1 rfl⟩, fun h => hmissing.mp h hdescription,
    hmissing'.mpr hviewport⟩
  · rw [htext]
    decide +kernel
  · exact hpadded e he titlePadded _ rfl ['\ufeff'] ['\t'] (List.forall_mem_singleton.mpr rfl)
      (List.forall_mem_singleton.mpr rfl) (by rw [htext]; decide +kernel)

end Page

end PageAudit
