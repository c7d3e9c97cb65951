import PageAudit.Evaluation
import PageAudit.Proofs.Dom.Alike

/-!
# Rules on sight

A rule goes by sight if it finds the same on any two pages whose elements outside templates are
alike. Every rule does but the one on render-blocking scripts (`Category.onSight_of_mem_rules`): the
head section it looks for may itself stand inside a template. For that one, the head sections have
to be alike as well, in themselves and in what is below them (`Rule.blockingScript_eq`).
-/

namespace PageAudit

namespace Rule

/-- The rule cannot tell two pages apart whose elements in sight are alike. -/
def OnSight (r : Rule) : Prop :=
  ∀ ⦃p p' : Page⦄, p.Alike p' → r p = r p'

theorem onSight_exceeding {limit : Nat} {count : Page → Nat} {issue : Nat → Issue}
    (h : ∀ ⦃p p' : Page⦄, p.Alike p' → count p = count p') :
    OnSight (exceeding limit count issue) := by
  intro p p' hp
  simp only [exceeding, h hp]

theorem onSight_lacking {has : Page → Bool} {issue : Issue}
    (h : ∀ ⦃p p' : Page⦄, p.Alike p' → has p = has p') : OnSight (lacking has issue) := by
  intro p p' hp
  simp only [lacking, h hp]

/-! ## Search engines -/

/-- The first title counts only through the length of its text. -/
theorem title_eq_elim (p : Page) :
    title p = ((p.queryAll (.named "title")).map titleLength).head?.elim (some titleMissing)
      titleIssue? := by
  rw [title, Page.first?_eq_head?_queryAll]
  cases p.queryAll (.named "title") with
  | nil => simp only [List.head?_nil, List.map_nil, Option.elim_none]
  | cons e es => simp only [List.head?_cons, List.map_cons, Option.elim_some]

theorem onSight_title : OnSight title := by
  intro p p' h
  have hlengths : (p.queryAll (.named "title")).map titleLength
      = (p'.queryAll (.named "title")).map titleLength :=
    Element.map_eq_of_alike (h.queryAll (Query.onSight_named "title"))
      fun e _ e' he => by rw [titleLength, titleLength, he.text]
  rw [title_eq_elim, title_eq_elim, hlengths]

theorem hasMeta_eq_of_alike (name : String) ⦃p p' : Page⦄ (h : p.Alike p') :
    hasMeta name p = hasMeta name p' := by
  refine h.exists?_eq (Query.onSight_of_reads ?_)
  simp [Query.admits, Query.named, Condition.Reads, Attribute.valueRead]

/-! ## Accessibility -/

theorem onSight_alternativeText : OnSight alternativeText := by
  refine onSight_exceeding fun p p' h => ?_
  refine Element.countP_eq_of_alike (h.queryAll (Query.onSight_named "img"))
    fun e he e' halike => congrArg not (halike.hasAttribute ?_)
  rw [Query.name_of_mem_select he]
  decide

theorem onSight_linkText : OnSight linkText :=
  onSight_exceeding fun _ _ h =>
    Element.countP_eq_of_alike (h.queryAll (Query.onSight_named "a"))
      fun _ _ _ he => congrArg isGeneric he.text

theorem onSight_landmark : OnSight landmark := by
  refine onSight_lacking fun p p' h => ?_
  have hname : (fun name => p.exists? (.named name)) = fun name => p'.exists? (.named name) :=
    funext fun name => h.exists?_eq (Query.onSight_named name)
  simp only [hasLandmark, hname]

/-! ## Structure -/

theorem onSight_mainHeading : OnSight mainHeading := by
  intro p p' h
  have hcount : mainHeadings p = mainHeadings p' :=
    (h.queryAll (Query.onSight_named "h1")).length_eq
  simp only [mainHeading, hcount]

theorem headingLevels_eq_of_alike ⦃p p' : Page⦄ (h : p.Alike p') :
    headingLevels p = headingLevels p' :=
  Element.map_eq_of_alike (h.queryAll (Query.onSight_names headings))
    fun _ _ _ he => congrArg headingLevel he.name

theorem onSight_headingOrder : OnSight headingOrder :=
  onSight_lacking fun _ _ h => by
    simp only [hasSkippedLevel, headingLevels_eq_of_alike h]

theorem onSight_inlineStyle : OnSight inlineStyle := by
  have hquery : Query.OnSight ⟨none, [("style", .present)]⟩ :=
    Query.onSight_of_reads (by simp [Condition.Reads, Attribute.presenceRead])
  exact onSight_exceeding fun _ _ h => (h.queryAll hquery).length_eq

/-! ## Performance -/

theorem onSight_imageCount : OnSight imageCount :=
  onSight_exceeding fun _ _ h => (h.queryAll (Query.onSight_named "img")).length_eq

theorem isLargeInline_eq {e e' : Element} (h : e.Alike e') (hname : e.name = "script") :
    isLargeInline e = isLargeInline e' := by
  have hsrc : e.hasAttribute "src" = e'.hasAttribute "src" :=
    h.hasAttribute (by rw [hname]; decide)
  rw [isLargeInline, isLargeInline, hsrc, h.text]

theorem onSight_inlineScript : OnSight inlineScript :=
  onSight_exceeding fun _ _ h =>
    Element.countP_eq_of_alike (h.queryAll (Query.onSight_named "script"))
      fun _ he _ halike => isLargeInline_eq halike (Query.name_of_mem_select he)

theorem isBlocking_eq {e e' : Element} (h : e.Alike e') (hname : e.name = "script") :
    isBlocking e = isBlocking e' := by
  have hasync : e.hasAttribute "async" = e'.hasAttribute "async" :=
    h.hasAttribute (by rw [hname]; decide)
  have hdefer : e.hasAttribute "defer" = e'.hasAttribute "defer" :=
    h.hasAttribute (by rw [hname]; decide)
  rw [isBlocking, isBlocking, hasync, hdefer]

theorem countP_isBlocking_eq {es es' : List Element} (h : List.Forall₂ Element.Alike es es') :
    ((Query.named "script" [("src", .present)]).select es).countP isBlocking
      = ((Query.named "script" [("src", .present)]).select es').countP isBlocking := by
  have hquery : (Query.named "script" [("src", .present)]).OnSight := by
    refine Query.onSight_of_reads ?_
    simp [Query.admits, Query.named, Condition.Reads, Attribute.presenceRead]
  exact Element.countP_eq_of_alike (Query.select_alike hquery h)
    fun _ he _ halike => isBlocking_eq halike (Query.name_of_mem_select he)

theorem blockingScripts_eq_elim (p : Page) :
    blockingScripts p = p.head?.elim 0 fun head =>
      ((Query.named "script" [("src", .present)]).select head.descendants).countP isBlocking := by
  unfold blockingScripts
  cases p.head? <;> rfl

/-- The pages may differ outside their head sections, but there they have to be alike throughout. -/
theorem blockingScript_eq {p p' : Page} (h : Option.Rel Element.AlikeWithin p.head? p'.head?) :
    blockingScript p = blockingScript p' := by
  have hcount : blockingScripts p = blockingScripts p' := by
    rw [blockingScripts_eq_elim, blockingScripts_eq_elim]
    generalize p.head? = head, p'.head? = head' at h
    cases h with
    | none => rfl
    | some h => exact countP_isBlocking_eq h.descendants
  simp only [blockingScript, exceeding, hcount]

end Rule

open Rule in
theorem Category.onSight_of_mem_rules (c : Category) :
    ∀ r ∈ c.rules, r = blockingScript ∨ r.OnSight := by
  have hdescription : description.OnSight := onSight_lacking (hasMeta_eq_of_alike "description")
  have hviewport : viewport.OnSight := onSight_lacking (hasMeta_eq_of_alike "viewport")
  cases c <;> simp only [rules, List.mem_cons, List.not_mem_nil, or_false] <;>
    rintro r (rfl | rfl | rfl)
  · exact .inr onSight_title
  · exact .inr hdescription
  · exact .inr hviewport
  · exact .inr onSight_alternativeText
  · exact .inr onSight_linkText
  · exact .inr onSight_landmark
  · exact .inr onSight_mainHeading
  · exact .inr onSight_headingOrder
  · exact .inr onSight_inlineStyle
  · exact .inr onSight_imageCount
  · exact .inr onSight_inlineScript
  · exact .inl rfl

theorem Page.evaluate_eq_of_alike {p p' : Page} (h : p.Alike p')
    (hhead : Option.Rel Element.AlikeWithin p.head? p'.head?) : p.evaluate = p'.evaluate := by
  have hrules : ∀ c : Category, ∀ r ∈ c.rules, r p = r p' := fun c r hr => by
    rcases c.onSight_of_mem_rules r hr with rfl | hr
    · exact Rule.blockingScript_eq hhead
    · exact hr h
  have hcheck : p.check = p'.check := funext fun c => List.filterMap_congr (hrules c)
  rw [evaluate, evaluate, hcheck]

end PageAudit
