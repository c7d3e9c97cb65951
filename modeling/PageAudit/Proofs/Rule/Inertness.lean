import PageAudit.Proofs.Dom.Outline
import PageAudit.Proofs.Rule.Sight

/-!
# The contents of templates are inert

A rule ignores templates if it finds the same on any two pages that are equal once their templates
have been emptied. Every rule does but the one on render-blocking scripts, whose head section may
itself stand inside a template. So two such pages have the same issues in the first three
categories, and in the last one the same issues about images and inline scripts
(`check_eq_of_pruned_eq`).
-/

namespace PageAudit

namespace Rule

/-- The rule finds the same on pages that differ only in what their templates hold. -/
def IgnoresTemplates (r : Rule) : Prop :=
  ∀ ⦃p p' : Page⦄, p.pruned = p'.pruned → r p = r p'

theorem OnSight.ignoresTemplates {r : Rule} (h : OnSight r) : IgnoresTemplates r :=
  fun _ _ hp => h (Page.alike_of_pruned_eq hp)

theorem ignoresTemplates_lacking {has : Page → Bool} {issue : Issue}
    (h : ∀ ⦃p p' : Page⦄, p.pruned = p'.pruned → has p = has p') :
    IgnoresTemplates (lacking has issue) := by
  intro p p' hp
  simp only [lacking, h hp]

theorem hasMeta_eq (name : String) ⦃p p' : Page⦄ (hp : p.pruned = p'.pruned) :
    hasMeta name p = hasMeta name p' :=
  hasMeta_eq_of_alike name (Page.alike_of_pruned_eq hp)

theorem ignoresTemplates_title : IgnoresTemplates title :=
  onSight_title.ignoresTemplates

theorem ignoresTemplates_alternativeText : IgnoresTemplates alternativeText :=
  onSight_alternativeText.ignoresTemplates

theorem ignoresTemplates_linkText : IgnoresTemplates linkText :=
  onSight_linkText.ignoresTemplates

theorem ignoresTemplates_landmark : IgnoresTemplates landmark :=
  onSight_landmark.ignoresTemplates

theorem ignoresTemplates_mainHeading : IgnoresTemplates mainHeading :=
  onSight_mainHeading.ignoresTemplates

theorem ignoresTemplates_headingOrder : IgnoresTemplates headingOrder :=
  onSight_headingOrder.ignoresTemplates

theorem ignoresTemplates_inlineStyle : IgnoresTemplates inlineStyle :=
  onSight_inlineStyle.ignoresTemplates

theorem ignoresTemplates_imageCount : IgnoresTemplates imageCount :=
  onSight_imageCount.ignoresTemplates

theorem ignoresTemplates_inlineScript : IgnoresTemplates inlineScript :=
  onSight_inlineScript.ignoresTemplates

theorem title_of_blockingScript {p : Page} {i : Issue} (h : blockingScript p = some i) :
    i.title = "Render-blocking Scripts" := by
  simp only [blockingScript, exceeding] at h
  split at h
  · cases h
    rfl
  · cases h

end Rule

namespace Page

open Rule

theorem check_eq_of_ignoresTemplates {c : Category} (hc : ∀ r ∈ c.rules, IgnoresTemplates r)
    {p p' : Page} (hp : p.pruned = p'.pruned) : p.check c = p'.check c :=
  List.filterMap_congr fun r hr => hc r hr hp

/-- Of the rules on performance, all but the last look past the templates. -/
theorem filter_check_performance (p : Page) :
    (p.check .performance).filter
        (["High Image Count", "Large Inline Scripts"].contains ·.title)
      = ([imageCount, inlineScript].filterMap (· p)).filter
          (["High Image Count", "Large Inline Scripts"].contains ·.title) := by
  have hsplit : p.check .performance
      = [imageCount, inlineScript].filterMap (· p) ++ [blockingScript].filterMap (· p) :=
    List.filterMap_append (l := [imageCount, inlineScript])
  have hlast : ([blockingScript].filterMap (· p)).filter
      (["High Image Count", "Large Inline Scripts"].contains ·.title) = [] := by
    rw [List.filter_eq_nil_iff]
    intro i hi
    have htitle : i.title = "Render-blocking Scripts" :=
      title_of_blockingScript (p := p) (by simpa using hi)
    simp [htitle]
  rw [hsplit, List.filter_append, hlast, List.append_nil]

/-- What stands inside templates, at whatever depth, decides no issue on search engines, on
accessibility or on structure, and none on the number of images or on inline scripts. -/
theorem check_eq_of_pruned_eq {p p' : Page} (h : p.pruned = p'.pruned) :
    p.check .seo = p'.check .seo
      ∧ p.check .accessibility = p'.check .accessibility
      ∧ p.check .structural = p'.check .structural
      ∧ (p.check .performance).filter
            (["High Image Count", "Large Inline Scripts"].contains ·.title)
          = (p'.check .performance).filter
            (["High Image Count", "Large Inline Scripts"].contains ·.title) := by
  refine ⟨check_eq_of_ignoresTemplates ?_ h, check_eq_of_ignoresTemplates ?_ h,
    check_eq_of_ignoresTemplates ?_ h, ?_⟩
  · simpa [Category.rules] using ⟨ignoresTemplates_title,
      ignoresTemplates_lacking (hasMeta_eq "description"),
      ignoresTemplates_lacking (hasMeta_eq "viewport")⟩
  · simpa [Category.rules] using ⟨ignoresTemplates_alternativeText, ignoresTemplates_linkText,
      ignoresTemplates_landmark⟩
  · simpa [Category.rules] using ⟨ignoresTemplates_mainHeading, ignoresTemplates_headingOrder,
      ignoresTemplates_inlineStyle⟩
  · have hrules : [imageCount, inlineScript].filterMap (· p)
        = [imageCount, inlineScript].filterMap (· p') := by
      refine List.filterMap_congr fun r hr => ?_
      simp only [List.mem_cons, List.not_mem_nil, or_false] at hr
      rcases hr with rfl | rfl
      · exact ignoresTemplates_imageCount h
      · exact ignoresTemplates_inlineScript h
    rw [filter_check_performance, filter_check_performance, hrules]

/-- A link with a template in it, which holds an image and, one template further down, a title. -/
def linkOverImage : Page where
  nodes := [.element "a" [] [.text .prose "read ", .element "template" []
    [.element "img" [] [], .element "template" [] [.element "title" [] []]], .text .prose "more"]]

/-- The same link, with a script and a heading of the third level in its template. -/
def linkOverScript : Page where
  nodes := [.element "a" [] [.text .prose "read ", .element "template" []
    [.element "script" [] [.text .script "f()"], .element "h3" [] []], .text .prose "more"]]

theorem check_linkOverImage_eq :
    linkOverImage.pruned = linkOverScript.pruned
      ∧ linkOverImage.check .seo = linkOverScript.check .seo
      ∧ linkOverImage.check .accessibility = linkOverScript.check .accessibility
      ∧ linkOverImage.check .structural = linkOverScript.check .structural
      ∧ (linkOverImage.check .performance).filter
            (["High Image Count", "Large Inline Scripts"].contains ·.title)
          = (linkOverScript.check .performance).filter
            (["High Image Count", "Large Inline Scripts"].contains ·.title) :=
  ⟨rfl, check_eq_of_pruned_eq rfl⟩

end Page

end PageAudit
