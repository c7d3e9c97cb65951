import PageAudit.Proofs.Dom.Place
import PageAudit.Proofs.Report.Count
import PageAudit.Proofs.Rule.Inertness
import PageAudit.Proofs.Rule.Titled

/-!
# Scripts in the live head section

The head section of a page is the first one that no template encloses, and the scripts that hold up
its rendering are those below it that no template encloses either (`Page.liveBlocking`). What stands
inside templates has no part in their number (`Page.liveBlocking_eq_of_pruned_eq`).

The rule on render-blocking scripts passes over scripts inside templates, but it takes the first
head section there is. If that one stands inside a template, nothing below it is live and the rule
counts no script at all, whatever the head section of the page loads
(`Page.reportedBlocking_spec`).
-/

namespace PageAudit

/-- A script from elsewhere that neither waits for the page nor is fetched beside it. -/
def Element.isRenderBlocking (e : Element) : Bool :=
  e.name = "script" && e.hasAttribute "src" && !e.hasAttribute "async" && !e.hasAttribute "defer"

/-- The live elements below an element that hold up rendering. -/
def Element.blockingBelow (e : Element) : Nat :=
  e.descendants.countP fun script => script.isRenderBlocking && script.isLive

namespace Page

/-- The first head section that no template encloses. -/
def liveHead? (p : Page) : Option Element :=
  p.visible.find? (·.name = "head")

/-- How many scripts hold up rendering in the live head section. -/
def liveBlocking (p : Page) : Nat :=
  p.liveHead?.elim 0 Element.blockingBelow

/-- The number that the issue about render-blocking scripts reports, zero if there is none. -/
def reportedBlocking (p : Page) : Nat :=
  ((p.evaluate.find? (·.title = "Render-blocking Scripts")).bind Issue.count?).getD 0

end Page

/-! ## What the issue reports -/

namespace Rule

theorem blockingScripts_eq (p : Page) :
    blockingScripts p = p.head?.elim 0 Element.blockingBelow := by
  rw [blockingScripts_eq_elim]
  refine congrArg (p.head?.elim 0) (funext fun head => ?_)
  rw [Query.select, List.countP_filter]
  refine List.countP_congr fun e _ => ?_
  simp [Query.accepts, Query.named, Condition.holds, isBlocking, Element.isRenderBlocking,
    and_assoc, and_left_comm, and_comm]

/-- Of a rule without a limit, the issue reports the count, and there is none if it is zero. -/
theorem getD_count?_exceeding {count : Page → Nat} {issue : Nat → Issue}
    (hissue : ∀ n, (issue n).count? = some n) (p : Page) :
    ((exceeding 0 count issue p).bind Issue.count?).getD 0 = count p := by
  unfold exceeding
  split
  · simp [hissue]
  · rename_i hzero
    simp [Nat.eq_zero_of_not_pos hzero]

end Rule

namespace Page

theorem find?_evaluate_blocking (p : Page) :
    p.evaluate.find? (·.title = "Render-blocking Scripts") = Rule.blockingScript p := by
  have hown : (fun i : Issue => decide (i.title = "Render-blocking Scripts"))
      = (["Render-blocking Scripts"].contains ·.title) := by
    funext i
    simp
  rw [hown, ← List.head?_filter, p.filter_evaluate 11 rfl rfl]
  cases Rule.blockingScript p <;> rfl

theorem reportedBlocking_eq (p : Page) : p.reportedBlocking = Rule.blockingScripts p := by
  rw [reportedBlocking, find?_evaluate_blocking]
  exact Rule.getD_count?_exceeding (fun n => Issue.count?_of_found rfl rfl) p

/-! ## The live head section -/

variable {p p' : Page} {head : Element}

theorem liveHead?_eq_some (hhead : p.head? = some head) (hlive : head.isLive) :
    p.liveHead? = some head := by
  obtain ⟨hname, before, after, helements, hbefore⟩ := List.find?_eq_some_iff_append.mp hhead
  refine List.find?_eq_some_iff_append.mpr
    ⟨hname, before.filter (·.isLive), after.filter (·.isLive), ?_, fun e he => ?_⟩
  · rw [visible, helements, List.filter_append, List.filter_cons_of_pos hlive]
  · exact hbefore e (List.mem_of_mem_filter he)

theorem liveHead?_eq_none (hhead : p.head? = none) : p.liveHead? = none := by
  have hnone := List.find?_eq_none.mp hhead
  exact List.find?_eq_none.mpr fun e he => hnone e (List.mem_of_mem_filter he)

end Page

namespace Element

variable {e : Element}

theorem blockingBelow_eq_zero (hlive : ¬ e.isLive) : e.blockingBelow = 0 := by
  have hmem : templateName ∈ e.name :: e.ancestors :=
    List.mem_cons_of_mem _ (by simpa [isLive] using hlive)
  rw [blockingBelow, ← List.countP_filter, descendants,
    Node.filter_isLive_elementsOf_of_template _ _ hmem, List.countP_nil]

theorem blockingBelow_eq (e : Element) : e.blockingBelow
    = ((e.descendants.filter isLive).map outline).countP isRenderBlocking := by
  rw [List.countP_map, List.countP_filter]
  rfl

theorem blockingBelow_outline (hname : e.name ≠ templateName) :
    e.outline.blockingBelow = e.blockingBelow := by
  have hchildren : e.outline.children = Node.prunedAll e.children := if_neg hname
  have hlive := Node.live_elementsOf_prunedAll (e.name :: e.ancestors) e.children 1 (e.number + 1)
  rw [blockingBelow_eq, blockingBelow_eq, descendants, hchildren]
  exact congrArg (List.countP isRenderBlocking) hlive

end Element

namespace Page

variable {p p' : Page}

theorem liveBlocking_eq (p : Page) : p.liveBlocking
    = ((p.visible.map Element.outline).find? (·.name = "head")).elim 0 Element.blockingBelow := by
  have hsame : (p.visible.map Element.outline).find? (·.name = "head")
      = p.liveHead?.map Element.outline := List.find?_map
  rw [hsame, liveBlocking]
  cases hhead : p.liveHead? with
  | none => rfl
  | some head =>
    have hname : head.name = "head" := by simpa using List.find?_some hhead
    exact (Element.blockingBelow_outline (by simp [hname, templateName])).symm

/-- What templates hold has no part in the number of scripts that hold up rendering. -/
theorem liveBlocking_eq_of_pruned_eq (h : p.pruned = p'.pruned) :
    p.liveBlocking = p'.liveBlocking := by
  rw [liveBlocking_eq, liveBlocking_eq, ← map_outline_visible_pruned p,
    ← map_outline_visible_pruned p', h]

/-- The issue on render-blocking scripts reports the number of those in the live head section,
unless the first head section of the page stands inside a template. Then nothing is reported, which
is right only if there is nothing to report. Of two pages that differ only in what their templates
hold, the live head sections have the same number of these scripts. -/
theorem reportedBlocking_spec (p : Page) :
    (p.reportedBlocking = p.liveBlocking
        ↔ (∀ head ∈ p.head?, ¬ p.InTemplate head) ∨ p.liveBlocking = 0)
      ∧ ((∃ head ∈ p.head?, p.InTemplate head) → p.reportedBlocking = 0)
      ∧ ∀ p' : Page, p.pruned = p'.pruned → p.liveBlocking = p'.liveBlocking := by
  rw [reportedBlocking_eq, Rule.blockingScripts_eq]
  refine and_assoc.mp ⟨?_, fun p' => liveBlocking_eq_of_pruned_eq⟩
  cases hhead : p.head? with
  | none => simp [liveBlocking, liveHead?_eq_none hhead]
  | some head =>
    have hwhere := isLive_iff (List.mem_of_find?_eq_some hhead)
    by_cases hlive : head.isLive
    · have hreported : p.liveBlocking = head.blockingBelow := by
        rw [liveBlocking, liveHead?_eq_some hhead hlive, Option.elim_some]
      simp [hreported, hwhere.mp hlive]
    · have hin : p.InTemplate head := not_not.mp (mt hwhere.mpr hlive)
      simp [Element.blockingBelow_eq_zero hlive, hin, eq_comm]

/-- A head section in a template before the live one, which loads a script. -/
def headInTemplate : Page where
  nodes := [.element "template" [] [.element "head" [] []],
    .element "head" [] [.element "script" [⟨"src", .text "a.js"⟩] []]]

theorem reportedBlocking_headInTemplate :
    headInTemplate.reportedBlocking = 0 ∧ headInTemplate.liveBlocking = 1 := by
  decide +kernel

end Page

end PageAudit
