import PageAudit.Proofs.Dom.Tally
import PageAudit.Proofs.Rule.Titled

/-!
# What the rules count

A counting rule is told by what it counts, by how many of it a page may have, and by how its issue
words the number (`Rule.Counting`). What counts is decided by an element alone, its name, its
attributes and what is in it, and the number is taken by going down the tree, past templates. The
rules ask queries instead. They have an issue exactly when that number is over the limit, and its
description gives that number (`Page.evaluate_tally`).
-/

namespace PageAudit

namespace Rule

/-- A rule that counts, told by what it counts, its limit and its words. -/
structure Counting where
  title : String
  limit : Nat
  /-- The element is one of those that the rule is about. -/
  counts : Node → Bool
  /-- The description up to the number. -/
  before : String
  /-- The description from the number on. -/
  after : String

namespace Counting

/-- Images that are not described. -/
def missingAlternatives : Counting where
  title := "Images missing Alt text"
  limit := 0
  counts node := node.isNamed "img" && !node.gives "alt"
  before := "Found "
  after := " <img> tag(s) without an alt attribute."

/-- Links that do not say where they lead. -/
def genericTexts : Counting where
  title := "Non-descriptive Link Text"
  limit := 0
  counts node := node.isNamed "a"
    && ["click here", "read more", "more", "link", "here"].contains
      (Text.lower (Text.trim node.textContent))
  before := "Found "
  after := " link(s) satisfying generic text like \"click here\"."

/-- Headings of the top level. -/
def mainHeadings : Counting where
  title := "Multiple H1 Headings"
  limit := 1
  counts node := node.isNamed "h1"
  before := "Found "
  after := " <h1> tags."

/-- Elements with a style of their own. -/
def inlineStyles : Counting where
  title := "Heavy use of Inline Styles"
  limit := 10
  counts node := node.gives "style"
  before := "Found "
  after := " elements with inline 'style' attributes."

/-- Images. -/
def images : Counting where
  title := "High Image Count"
  limit := 30
  counts node := node.isNamed "img"
  before := "Page contains "
  after := " images."

/-- Scripts in the page that are too long for that. -/
def longScripts : Counting where
  title := "Large Inline Scripts"
  limit := 0
  counts node := node.isNamed "script" && !node.gives "src" && 2000 < node.textContent.length
  before := "Found "
  after := " large inline script block(s)."

/-- All of these rules. -/
def all : List Counting :=
  [missingAlternatives, genericTexts, mainHeadings, inlineStyles, images, longScripts]

/-- Among the issues is one about the number if and only if it is over the limit, and every one
about it gives the number in its description. -/
structure IsReportedIn (k : Counting) (p : Page) (issues : List Issue) : Prop where
  found : k.title ∈ issues.map (·.title) ↔ k.limit < p.tally k.counts
  described : ∀ i ∈ issues, i.title = k.title →
    i.description = k.before ++ toString (p.tally k.counts) ++ k.after

end Counting

/-! ## Counts -/

variable (p : Page)

theorem tally_missingAlternatives :
    p.tally Counting.missingAlternatives.counts = imagesWithoutAlt p :=
  p.tally_eq_countP_queryAll fun e => by
    rw [Query.asks_named, ← e.isNamed_node, ← e.gives_node]
    exact Bool.and_eq_true_iff

theorem tally_genericTexts : p.tally Counting.genericTexts.counts = genericLinks p :=
  p.tally_eq_countP_queryAll fun e => by
    rw [Query.asks_named, ← e.isNamed_node]
    exact Bool.and_eq_true_iff

/-- The elements of one name are counted by the length of what is selected. -/
theorem tally_isNamed (name : String) :
    p.tally (·.isNamed name) = (p.queryAll (.named name)).length := by
  rw [← List.countP_true]
  refine p.tally_eq_countP_queryAll fun e => ?_
  rw [Query.asks_named, e.isNamed_node]
  exact (and_iff_left rfl).symm

theorem tally_inlineStyles : p.tally Counting.inlineStyles.counts = styledElements p := by
  rw [styledElements, ← List.countP_true]
  refine p.tally_eq_countP_queryAll fun e => ?_
  have hasks : Query.Asks ⟨none, [("style", .present)]⟩ e ↔ e.hasAttribute "style" := by
    rw [Query.asks_iff]
    simp [Query.admits, Condition.holds]
  rw [hasks, ← e.gives_node]
  exact (and_iff_left rfl).symm

theorem tally_longScripts : p.tally Counting.longScripts.counts = largeInlineScripts p :=
  p.tally_eq_countP_queryAll fun e => by
    rw [Query.asks_named, isLargeInline, ← e.isNamed_node, ← e.gives_node, ← Bool.and_eq_true_iff,
      ← Bool.and_assoc]
    rfl

theorem hasLandmark_eq_false_iff :
    hasLandmark p = false ↔ p.tally (fun node => landmarks.any (node.isNamed ·)) = 0 := by
  rw [hasLandmark, List.any_eq_false, p.tally_eq_countP, List.countP_eq_zero]
  simp only [Page.exists?_iff, Query.asks_named, List.any_eq_true, Element.isNamed_node]
  constructor
  · rintro h e he ⟨name, hname, heq⟩
    exact h name hname ⟨e, he, heq⟩
  · rintro h name hname ⟨e, he, heq⟩
    exact h e he ⟨name, hname, heq⟩

/-! ## Issues -/

namespace Counting

variable {k : Counting} {p : Page}

theorem isReportedIn_of_over {i : Issue} (hover : k.limit < p.tally k.counts)
    (htitle : i.title = k.title)
    (hdescription : i.description = k.before ++ toString (p.tally k.counts) ++ k.after) :
    k.IsReportedIn p (some i).toList :=
  ⟨by simp [htitle, hover], by simp [hdescription]⟩

theorem isReportedIn_of_not_over {found : Option Issue} (hunder : ¬ k.limit < p.tally k.counts)
    (htitle : ∀ i ∈ found, i.title ≠ k.title) : k.IsReportedIn p found.toList where
  found := iff_of_false (by simpa using htitle) hunder
  described i hi heq := absurd heq (htitle i (Option.mem_toList.mp hi))

theorem isReportedIn_exceeding {count : Page → Nat} {issue : Nat → Issue}
    (hcount : p.tally k.counts = count p) (htitle : ∀ n, (issue n).title = k.title)
    (hdescription : ∀ n, (issue n).description = k.before ++ toString n ++ k.after) :
    k.IsReportedIn p (exceeding k.limit count issue p).toList := by
  unfold exceeding
  rw [← hcount]
  split
  · rename_i hover
    exact isReportedIn_of_over hover (htitle _) (hdescription _)
  · rename_i hunder
    exact isReportedIn_of_not_over hunder (by simp)

theorem isReportedIn_mainHeading : mainHeadings.IsReportedIn p (mainHeading p).toList := by
  have hcount : p.tally mainHeadings.counts = Rule.mainHeadings p := tally_isNamed p "h1"
  have hlimit : mainHeadings.limit = 1 := rfl
  rw [mainHeading_eq, ← hcount]
  split
  · refine isReportedIn_of_not_over (by omega) ?_
    rintro _ ⟨⟩
    decide
  · split
    · rename_i hover
      exact isReportedIn_of_over hover rfl rfl
    · rename_i hunder
      exact isReportedIn_of_not_over hunder (by simp)

theorem IsReportedIn.of_filter {es : List Issue} {found : Option Issue} {own : List String}
    (h : k.IsReportedIn p found.toList) (hmem : k.title ∈ own)
    (hown : es.filter (own.contains ·.title) = found.toList) : k.IsReportedIn p es where
  found := by
    rw [← h.found, Issue.mem_map_title_iff hown hmem]
    simp
  described i hi htitle := by
    have hfound : i ∈ found := (Issue.mem_iff_of_title hown (htitle ▸ hmem)).mp hi
    exact h.described i (Option.mem_toList.mpr hfound) htitle

end Counting

end Rule

namespace Page

open Rule

theorem isReportedIn_evaluate (p : Page) : ∀ k ∈ Counting.all, k.IsReportedIn p p.evaluate := by
  simp only [Counting.all, List.mem_cons, List.not_mem_nil, or_false]
  rintro k (rfl | rfl | rfl | rfl | rfl | rfl)
  · exact (Counting.isReportedIn_exceeding (tally_missingAlternatives p) (fun _ => rfl)
      fun _ => rfl).of_filter List.mem_cons_self (p.filter_evaluate 3 rfl rfl)
  · exact (Counting.isReportedIn_exceeding (tally_genericTexts p) (fun _ => rfl)
      fun _ => rfl).of_filter List.mem_cons_self (p.filter_evaluate 4 rfl rfl)
  · exact Counting.isReportedIn_mainHeading.of_filter (by decide) (p.filter_evaluate 6 rfl rfl)
  · exact (Counting.isReportedIn_exceeding (tally_inlineStyles p) (fun _ => rfl)
      fun _ => rfl).of_filter List.mem_cons_self (p.filter_evaluate 8 rfl rfl)
  · exact (Counting.isReportedIn_exceeding (tally_isNamed p "img") (fun _ => rfl)
      fun _ => rfl).of_filter List.mem_cons_self (p.filter_evaluate 9 rfl rfl)
  · exact (Counting.isReportedIn_exceeding (tally_longScripts p) (fun _ => rfl)
      fun _ => rfl).of_filter List.mem_cons_self (p.filter_evaluate 10 rfl rfl)

theorem mem_evaluate_mainHeadingMissing (p : Page) :
    "Missing H1 Heading" ∈ p.evaluate.map (·.title) ↔ p.tally (·.isNamed "h1") = 0 := by
  have hcount : p.tally (·.isNamed "h1") = mainHeadings p := tally_isNamed p "h1"
  rw [hcount, mem_map_title_mainHeading (p.filter_evaluate 6 rfl rfl) List.mem_cons_self]

theorem mem_evaluate_landmark (p : Page) :
    "No Semantic Landmarks Found" ∈ p.evaluate.map (·.title)
      ↔ p.tally (fun node => landmarks.any (node.isNamed ·)) = 0 := by
  rw [← hasLandmark_eq_false_iff, ← Bool.not_eq_true]
  exact Issue.mem_map_title_lacking (p.filter_evaluate 5 rfl rfl) List.mem_cons_self

/-- Each of the rules about a number has an issue if and only if its number, taken by going down the
tree and never into a template, is over its limit, and the description gives that number. The main
heading is missing if and only if the number of main headings is zero, and landmarks are if and only
if the number of elements of any of their names is. -/
theorem evaluate_tally (p : Page) :
    (∀ k ∈ Counting.all, k.IsReportedIn p p.evaluate)
      ∧ ("Missing H1 Heading" ∈ p.evaluate.map (·.title) ↔ p.tally (·.isNamed "h1") = 0)
      ∧ ("No Semantic Landmarks Found" ∈ p.evaluate.map (·.title)
          ↔ p.tally (fun node =>
              ["main", "nav", "header", "footer", "aside"].any (node.isNamed ·)) = 0) :=
  ⟨p.isReportedIn_evaluate, p.mem_evaluate_mainHeadingMissing, p.mem_evaluate_landmark⟩

/-- A link whose text comes in parts, with a comment, a template and another link in it. -/
def linkInParts : Page where
  nodes := [.element "a" [] [.text .prose "\ufeff Read ", .remark .comment "the rest or ",
    .element "template" [] [.element "a" [] [.text .prose "here"]], .element "b" []
    [.text .prose "MORE"], .element "a" [] [], .text .prose "\n"]]

theorem evaluate_tally_linkInParts :
    Counting.genericTexts ∈ Counting.all
      ∧ linkInParts.tally Counting.genericTexts.counts = 1
      ∧ Counting.genericTexts.IsReportedIn linkInParts linkInParts.evaluate := by
  have hmem : Counting.genericTexts ∈ Counting.all := .tail _ (.head _)
  exact ⟨hmem, by decide +kernel, (evaluate_tally linkInParts).1 _ hmem⟩

end Page

end PageAudit
