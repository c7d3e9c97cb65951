import Mathlib.Data.List.Basic
import PageAudit.Proofs.Report.Grouping
import PageAudit.Report.Rendering

/-!
# What a written report tells

The text of a report comes apart in one way only. Line feeds part its lines and empty lines its
parts, and a part is the line of the source or a section: a heading and the cards below it
(`Layout`). Layouts of the same text are the same (`Layout.text_injective`), though a heading may
give any count and what stands on a card may look like a heading, a rule or another card: lines
are told by where they stand.

The text of a report is that of a layout in which every heading counts the cards below it, and every
issue stands on one card. So nothing of the report is lost but its warnings
(`Report.byCategory_eq_of_text_eq`).
-/

namespace PageAudit

/-- A text of one line. -/
def IsLine (s : String) : Prop :=
  '\n' ∉ s.toList

instance : DecidablePred IsLine := fun s =>
  inferInstanceAs (Decidable ('\n' ∉ s.toList))

/-- Every text that is written is one line. -/
def Issue.IsOneLined (i : Issue) : Prop :=
  IsLine i.title ∧ IsLine i.description ∧ IsLine i.suggestion

/-- The report holds no line feed in what is written of it. -/
def Report.IsOneLined (r : Report) : Prop :=
  (∀ s ∈ r.source, IsLine s) ∧ ∀ i ∈ r.issues, i.IsOneLined

/-- A heading, the count it gives, and the issues on the cards below it. -/
structure Section where
  category : Category
  count : Nat
  issues : List Issue
  category_eq : ∀ i ∈ issues, i.category = category

/-- The lines of a section. -/
def Section.lines (s : Section) : List String :=
  Report.heading s.category s.count ++ s.issues.flatMap Issue.card

/-- What a written report is made of. An empty source is not written. -/
structure Layout where
  source : String
  sections : List Section

namespace Layout

/-- The layout holds no line feed in what is written of it. -/
def IsOneLined (w : Layout) : Prop :=
  IsLine w.source ∧ ∀ s ∈ w.sections, ∀ i ∈ s.issues, i.IsOneLined

/-- The line on the source, if one is given. -/
def sourceLines (w : Layout) : List String :=
  if w.source = "" then [] else [s!"== {w.source} =="]

/-- The parts that empty lines keep apart. The line for a clean page is not kept apart from the
source. -/
def parts (w : Layout) : List (List String) :=
  if w.sections = [] then [w.sourceLines ++ [Report.cleanMessage]]
  else w.sourceLines.map ([·]) ++ w.sections.map Section.lines

/-- All lines, with an empty one between any two parts. -/
def lines (w : Layout) : List String :=
  [""].intercalate w.parts

/-- The text of a layout. -/
def text (w : Layout) : String :=
  joinLines w.lines

end Layout

/-! ## Lines -/

theorem joinLines_injective {ls ls' : List String} (hls : ls ≠ []) (hls' : ls' ≠ [])
    (hline : ∀ l ∈ ls, IsLine l) (hline' : ∀ l ∈ ls', IsLine l)
    (h : joinLines ls = joinLines ls') : ls = ls' := by
  have hsplit := String.toList_split_intercalate hline
  have hsplit' := String.toList_split_intercalate hline'
  have hjoin : (String.singleton '\n').intercalate ls = (String.singleton '\n').intercalate ls' := h
  rw [if_neg hls] at hsplit
  rw [if_neg hls', ← hjoin, hsplit] at hsplit'
  exact hsplit'

theorem isLine_append {s t : String} : IsLine (s ++ t) ↔ IsLine s ∧ IsLine t := by
  simp [IsLine, not_or]

theorem isLine_toString (n : Nat) : IsLine (toString n) := by
  intro hmem
  rw [Nat.toString_eq_ofList_toDigits, String.toList_ofList] at hmem
  exact absurd (Nat.isDigit_of_mem_toDigits (by decide) (by decide) hmem) (by decide)

/-! ## Headings -/

theorem toDigits_injective {m n : Nat} (h : Nat.toDigits 10 m = Nat.toDigits 10 n) : m = n := by
  calc m = Nat.ofDigitChars 10 (Nat.toDigits 10 m) 0 := Nat.ofDigitChars_ten_toDigits.symm
    _ = Nat.ofDigitChars 10 (Nat.toDigits 10 n) 0 := by rw [h]
    _ = n := Nat.ofDigitChars_ten_toDigits

theorem Category.label_injective {c c' : Category} (h : c.label = c'.label) : c = c' := by
  cases c <;> cases c' <;> first | rfl | exact absurd h (by decide)

namespace Report

/-- A label has no blank in it, and neither has a count. -/
theorem headingLine_injective {c d : Category} {m n : Nat}
    (h : s!"{c.label} ({m})" = s!"{d.label} ({n})") : c = d ∧ m = n := by
  have hlists : c.label.toList ++ ' ' :: '(' :: (Nat.toDigits 10 m ++ [')'])
      = d.label.toList ++ ' ' :: '(' :: (Nat.toDigits 10 n ++ [')']) := by
    simpa [toString] using congrArg String.toList h
  have hlabel : ' ' ∉ c.label.toList := by
    cases c <;> decide
  have hcount : ' ' ∉ '(' :: (Nat.toDigits 10 m ++ [')']) := by
    intro hmem
    have hdigit : ' ' ∈ Nat.toDigits 10 m := by simpa using hmem
    exact absurd (Nat.isDigit_of_mem_toDigits (by decide) (by decide) hdigit) (by decide)
  obtain ⟨hc, -, hrest⟩ := (List.append_cons_inj_of_notMem hlabel hcount).mp hlists
  have hdigits : Nat.toDigits 10 m = Nat.toDigits 10 n := by simpa using hrest
  exact ⟨Category.label_injective (String.toList_inj.mp hc), toDigits_injective hdigits⟩

/-- The rule below a heading is not empty. -/
theorem exists_heading (c : Category) (n : Nat) :
    ∃ k, heading c n = [s!"{c.label} ({n})", .ofList (List.replicate (k + 1) '-')] := by
  have hlength : (s!"{c.label} ({n})").length ≠ 0 := by
    simp [toString, String.length_append]
  obtain ⟨k, hk⟩ := Nat.exists_eq_succ_of_ne_zero hlength
  exact ⟨k, by simp only [heading, hk]⟩

end Report

/-! ## Cards -/

namespace Issue

/-- The tag of a card is told by its first letter. -/
theorem tag_injective {s r : Severity} {t u : String}
    (h : s!"[{Text.upper s.label}] {t}" = s!"[{Text.upper r.label}] {u}") : s = r ∧ t = u := by
  have herror : Text.upper Severity.error.label = "ERROR" := rfl
  have hwarning : Text.upper Severity.warning.label = "WARNING" := rfl
  have hinfo : Text.upper Severity.info.label = "INFO" := rfl
  cases s <;> cases r <;>
    simp [herror, hwarning, hinfo, toString, String.ext_iff] at h ⊢ <;> exact h

theorem card_injective {i j : Issue} (hc : i.category = j.category) (h : i.card = j.card) :
    i = j := by
  obtain ⟨c, s, t, d, g⟩ := i
  obtain ⟨c', s', t', d', g'⟩ := j
  simp only [card, List.cons.injEq, and_true] at h
  obtain ⟨htitle, hdescription, hsuggestion⟩ := h
  obtain ⟨rfl, rfl⟩ := tag_injective htitle
  obtain rfl : d = d' := by simpa [toString, String.ext_iff] using hdescription
  obtain rfl : g = g' := by simpa [toString, String.ext_iff] using hsuggestion
  obtain rfl : c = c' := hc
  rfl

theorem length_card (i : Issue) : i.card.length = 3 :=
  rfl

/-- Cards are of one length, so they come apart wherever one starts. -/
theorem flatMap_card_injective {c : Category} :
    ∀ {is js : List Issue}, (∀ i ∈ is, i.category = c) → (∀ j ∈ js, j.category = c) →
      is.flatMap card = js.flatMap card → is = js
  | [], [], _, _, _ => rfl
  | [], _ :: _, _, _, h => by simp [card] at h
  | _ :: _, [], _, _, h => by simp [card] at h
  | i :: is, j :: js, hi, hj, h => by
    rw [List.flatMap_cons, List.flatMap_cons] at h
    obtain ⟨hcard, hcards⟩ := List.append_inj h (i.length_card.trans j.length_card.symm)
    rw [List.forall_mem_cons] at hi hj
    rw [card_injective (hi.1.trans hj.1.symm) hcard, flatMap_card_injective hi.2 hj.2 hcards]

theorem IsOneLined.isLine {i : Issue} (h : i.IsOneLined) : ∀ l ∈ i.card, IsLine l := by
  obtain ⟨htitle, hdescription, hsuggestion⟩ := h
  have hlabel : IsLine (Text.upper i.severity.label) := by
    unfold IsLine
    cases i.severity <;> decide
  simp only [card, List.forall_mem_cons, isLine_append, toString]
  simp_all [IsLine]

end Issue

/-! ## Sections -/

namespace Section

theorem lines_injective {s t : Section} (h : s.lines = t.lines) : s = t := by
  obtain ⟨c, n, is, his⟩ := s
  obtain ⟨c', n', js, hjs⟩ := t
  simp only [lines, Report.heading, List.cons_append, List.nil_append, List.cons.injEq] at h
  obtain ⟨hline, -, hcards⟩ := h
  obtain ⟨rfl, rfl⟩ := Report.headingLine_injective hline
  obtain rfl := Issue.flatMap_card_injective his hjs hcards
  rfl

/-- The first characters of a label, a rule and the lines of a card. No source line, no empty line
and no clean page starts so. -/
theorem head?_of_mem_lines {s : Section} {l : String} (h : l ∈ s.lines) :
    ∃ c ∈ "SAP-[ ".toList, l.toList.head? = some c := by
  obtain ⟨k, hheading⟩ := Report.exists_heading s.category s.count
  rw [lines, hheading, List.mem_append, List.mem_flatMap] at h
  rcases h with h | ⟨i, -, h⟩
  · rcases List.mem_pair.mp h with rfl | rfl
    · cases s.category <;> simp [toString, Category.label]
    · simp [List.replicate_succ]
  · simp only [Issue.card, List.mem_cons, List.not_mem_nil, or_false] at h
    rcases h with rfl | rfl | rfl <;> simp [toString]

theorem lines_ne {s : Section} {ls : List String} {l : String} (hl : l ∈ ls)
    (h : ∀ c ∈ l.toList.head?, c ∉ "SAP-[ ".toList) : s.lines ≠ ls := by
  rintro rfl
  obtain ⟨c, hc, hhead⟩ := head?_of_mem_lines hl
  exact h c hhead hc

theorem isLine_of_mem_lines {s : Section} (hs : ∀ i ∈ s.issues, i.IsOneLined) :
    ∀ l ∈ s.lines, IsLine l := by
  obtain ⟨k, hheading⟩ := Report.exists_heading s.category s.count
  intro l hl
  rw [lines, hheading, List.mem_append, List.mem_flatMap] at hl
  rcases hl with hl | ⟨i, hi, hl⟩
  · rcases List.mem_pair.mp hl with rfl | rfl
    · have hlabel : IsLine s.category.label := by
        unfold IsLine
        cases s.category <;> decide
      simp only [isLine_append]
      exact ⟨⟨⟨hlabel, by decide⟩, isLine_toString s.count⟩, by decide⟩
    · simp [IsLine]
  · exact (hs i hi).isLine l hl

end Section

/-! ## Layouts -/

namespace Layout

variable {w w' : Layout}

theorem head?_of_mem_sourceLines {l : String} (h : l ∈ w.sourceLines) :
    l.toList.head? = some '=' := by
  unfold sourceLines at h
  split at h
  · cases h
  · rw [List.mem_singleton.mp h]
    simp [toString]

theorem source_eq_of_sourceLines_eq (h : w.sourceLines = w'.sourceLines) :
    w.source = w'.source := by
  unfold sourceLines at h
  split at h <;> split at h
  · simp_all
  · cases h
  · cases h
  · simpa [toString, String.ext_iff] using h

theorem parts_of_sections_ne_nil (h : w.sections ≠ []) :
    w.parts = w.sourceLines.map ([·]) ++ w.sections.map Section.lines :=
  if_neg h

theorem parts_of_sections_eq_nil (h : w.sections = []) :
    w.parts = [w.sourceLines ++ [Report.cleanMessage]] :=
  if_pos h

theorem lines_ne_singleton (s : Section) {l : String} (h : l.toList.head? = some '=') :
    s.lines ≠ [l] :=
  Section.lines_ne List.mem_cons_self (by simp [h])

/-- A source line is no section, so the source lines end where the sections begin. -/
theorem eq_of_parts_eq {ss ss' : List Section} :
    ∀ {ls ls' : List String}, (∀ l ∈ ls, l.toList.head? = some '=') →
      (∀ l ∈ ls', l.toList.head? = some '=') →
      ls.map ([·]) ++ ss.map Section.lines = ls'.map ([·]) ++ ss'.map Section.lines →
      ls = ls' ∧ ss = ss'
  | [], [], _, _, h =>
    ⟨rfl, List.map_injective_iff.mpr (fun _ _ => Section.lines_injective) h⟩
  | l :: _, [], hls, _, h => by
    obtain ⟨s, _, -, hs, -⟩ := List.map_eq_cons_iff.mp h.symm
    exact absurd hs (lines_ne_singleton s (hls l List.mem_cons_self))
  | [], l :: _, _, hls', h => by
    obtain ⟨s, _, -, hs, -⟩ := List.map_eq_cons_iff.mp h
    exact absurd hs (lines_ne_singleton s (hls' l List.mem_cons_self))
  | l :: ls, l' :: ls', hls, hls', h => by
    simp only [List.map_cons, List.cons_append, List.cons.injEq, and_true] at h
    obtain ⟨rfl, hrest⟩ := h
    rw [List.forall_mem_cons] at hls hls'
    obtain ⟨rfl, rfl⟩ := eq_of_parts_eq hls.2 hls'.2 hrest
    exact ⟨rfl, rfl⟩

theorem lines_mem_parts {s : Section} (hs : s ∈ w.sections) : s.lines ∈ w.parts := by
  rw [parts_of_sections_ne_nil (List.ne_nil_of_mem hs)]
  exact List.mem_append_right _ (List.mem_map_of_mem hs)

theorem parts_ne_of_sections_eq_nil (hw : w.sections = []) (hw' : w'.sections ≠ []) :
    w.parts ≠ w'.parts := by
  intro h
  obtain ⟨s, hs⟩ := List.exists_mem_of_ne_nil _ hw'
  have hmem := lines_mem_parts hs
  rw [← h, parts_of_sections_eq_nil hw, List.mem_singleton] at hmem
  refine Section.lines_ne (List.mem_append_right _ List.mem_cons_self) ?_ hmem
  rintro c ⟨⟩
  decide

theorem parts_injective (h : w.parts = w'.parts) : w = w' := by
  have hboth : w.sourceLines = w'.sourceLines ∧ w.sections = w'.sections := by
    by_cases hw : w.sections = [] <;> by_cases hw' : w'.sections = []
    · rw [parts_of_sections_eq_nil hw, parts_of_sections_eq_nil hw'] at h
      exact ⟨List.append_cancel_right (List.singleton_inj.mp h), hw.trans hw'.symm⟩
    · exact absurd h (parts_ne_of_sections_eq_nil hw hw')
    · exact absurd h.symm (parts_ne_of_sections_eq_nil hw' hw)
    · rw [parts_of_sections_ne_nil hw, parts_of_sections_ne_nil hw'] at h
      exact eq_of_parts_eq (fun _ => head?_of_mem_sourceLines) (fun _ => head?_of_mem_sourceLines) h
  obtain ⟨hsource, hsections⟩ := hboth
  have hsource := source_eq_of_sourceLines_eq hsource
  obtain ⟨_, _⟩ := w
  obtain ⟨_, _⟩ := w'
  congr

theorem mem_sourceLines_or_of_mem_parts {p : List String} {l : String} (hp : p ∈ w.parts)
    (hl : l ∈ p) :
    l ∈ w.sourceLines ∨ l = Report.cleanMessage ∨ ∃ s ∈ w.sections, l ∈ s.lines := by
  by_cases hw : w.sections = []
  · rw [parts_of_sections_eq_nil hw, List.mem_singleton] at hp
    subst hp
    simpa [hw] using hl
  · rw [parts_of_sections_ne_nil hw, List.mem_append, List.mem_map, List.mem_map] at hp
    rcases hp with ⟨l', hl', rfl⟩ | ⟨s, hs, rfl⟩
    · exact .inl (List.mem_singleton.mp hl ▸ hl')
    · exact .inr (.inr ⟨s, hs, hl⟩)

theorem empty_notMem_of_mem_parts {p : List String} (hp : p ∈ w.parts) : "" ∉ p := by
  intro hl
  rcases mem_sourceLines_or_of_mem_parts hp hl with h | h | ⟨s, -, h⟩
  · simpa using head?_of_mem_sourceLines h
  · exact absurd h (by decide)
  · exact Section.lines_ne h (by simp) rfl

theorem parts_ne_nil (w : Layout) : w.parts ≠ [] := by
  by_cases hw : w.sections = []
  · simp [parts_of_sections_eq_nil hw]
  · simp [parts_of_sections_ne_nil hw, hw]

theorem splitOn_lines (w : Layout) : w.lines.splitOn "" = w.parts :=
  List.splitOn_intercalate "" (fun _ => empty_notMem_of_mem_parts) w.parts_ne_nil

theorem lines_injective (h : w.lines = w'.lines) : w = w' := by
  refine parts_injective ?_
  rw [← splitOn_lines, h, splitOn_lines]

theorem lines_ne_nil (w : Layout) : w.lines ≠ [] := by
  intro h
  have hparts : w.parts = [[]] := by rw [← splitOn_lines, h, List.splitOn_nil]
  by_cases hw : w.sections = []
  · simp [parts_of_sections_eq_nil hw] at hparts
  · obtain ⟨s, hs⟩ := List.exists_mem_of_ne_nil _ hw
    have hmem := lines_mem_parts hs
    simp [hparts, Section.lines, Report.heading] at hmem

theorem mem_intercalate_cases {l : String} :
    ∀ {ps : List (List String)}, l ∈ [""].intercalate ps → l = "" ∨ ∃ p ∈ ps, l ∈ p
  | [], h => by simp at h
  | [p], h => by
    rw [List.intercalate_singleton] at h
    exact .inr ⟨p, List.mem_cons_self, h⟩
  | p :: q :: ps, h => by
    rw [List.intercalate_cons_cons, List.mem_append, List.mem_append] at h
    rcases h with (h | h) | h
    · exact .inr ⟨p, List.mem_cons_self, h⟩
    · exact .inl (List.mem_singleton.mp h)
    · rcases mem_intercalate_cases h with h | ⟨p', hp', h⟩
      · exact .inl h
      · exact .inr ⟨p', List.mem_cons_of_mem p hp', h⟩

theorem IsOneLined.isLine (h : w.IsOneLined) : ∀ l ∈ w.lines, IsLine l := by
  intro l hl
  rcases mem_intercalate_cases hl with rfl | ⟨p, hp, hl⟩
  · decide
  · rcases mem_sourceLines_or_of_mem_parts hp hl with hl | rfl | ⟨s, hs, hl⟩
    · unfold sourceLines at hl
      split at hl
      · cases hl
      · rw [List.mem_singleton.mp hl, isLine_append, isLine_append]
        exact ⟨⟨by decide, h.1⟩, by decide⟩
    · decide
    · exact Section.isLine_of_mem_lines (h.2 s hs) l hl

theorem text_injective (hw : w.IsOneLined) (hw' : w'.IsOneLined) (h : w.text = w'.text) : w = w' :=
  lines_injective (joinLines_injective w.lines_ne_nil w'.lines_ne_nil hw.isLine hw'.isLine h)

end Layout

/-! ## Reports -/

namespace Report

/-- The section of a report on a category. -/
def sectionOf (r : Report) (c : Category) : Section where
  category := c
  count := (r.ofCategory c).length
  issues := r.ofCategory c
  category_eq := r.category_of_mem_ofCategory c

/-- The layout of the text of a report. -/
def layout (r : Report) : Layout where
  source := r.source.getD ""
  sections := (Category.all.map r.sectionOf).filter (!·.issues.isEmpty)

variable (r : Report)

theorem byCategory_eq_map_sections :
    r.byCategory = r.layout.sections.map fun s => (s.category, s.issues) := by
  have hmap : r.byCategory = ((Category.all.map r.sectionOf).map fun s =>
      (s.category, s.issues)).filter (!·.2.isEmpty) := rfl
  rw [hmap, List.filter_map]
  rfl

theorem flatMap_issues_perm : (r.layout.sections.flatMap Section.issues).Perm r.issues := by
  have hperm := r.flatMap_byCategory_perm
  rwa [byCategory_eq_map_sections, List.flatMap_map] at hperm

theorem count_eq_of_mem_layout {s : Section} (hs : s ∈ r.layout.sections) :
    s.count = s.issues.length := by
  obtain ⟨c, -, rfl⟩ := List.mem_map.mp (List.mem_of_mem_filter hs)
  rfl

theorem map_lines_sections :
    r.layout.sections.map Section.lines = r.byCategory.map fun b => cards b.1 b.2 := by
  rw [byCategory_eq_map_sections, List.map_map]
  refine List.map_congr_left fun s hs => ?_
  simp only [Function.comp_apply, Section.lines, cards, r.count_eq_of_mem_layout hs]

theorem sourceLines_layout : r.layout.sourceLines = r.sourceLines := by
  unfold Layout.sourceLines sourceLines layout
  cases r.source with
  | none => rfl
  | some s => simp [String.isEmpty_iff]

theorem intercalate_append_cons (ls ls' : List String) (ps : List (List String)) :
    [""].intercalate ((ls ++ ls') :: ps) = ls ++ [""].intercalate (ls' :: ps) := by
  cases ps <;> simp [List.intercalate_cons_cons]

/-- Sections are added after empty lines. -/
theorem foldl_addSection :
    ∀ (blocks : List (Category × List Issue)) {ls : List String}, ls ≠ [] →
      blocks.foldl addSection ls = [""].intercalate (ls :: blocks.map fun b => cards b.1 b.2)
  | [], ls, _ => by simp
  | b :: blocks, ls, hls => by
    have hadd : addSection ls b = ls ++ [""] ++ cards b.1 b.2 := by
      simp [addSection, hls]
    rw [List.foldl_cons, hadd, foldl_addSection blocks (by simp), intercalate_append_cons,
      List.map_cons, List.intercalate_cons_cons]

theorem sections_layout_eq_nil_iff : r.layout.sections = [] ↔ r.issues = [] := by
  constructor
  · intro h
    have hperm := r.flatMap_issues_perm
    rw [h, List.flatMap_nil] at hperm
    exact hperm.nil_eq.symm
  · intro h
    simp [layout, sectionOf, ofCategory, h]

theorem lines_layout : r.layout.lines = r.lines := by
  by_cases hissues : r.issues = []
  · have hnil := r.sections_layout_eq_nil_iff.mpr hissues
    rw [Layout.lines, Layout.parts_of_sections_eq_nil hnil, List.intercalate_singleton,
      sourceLines_layout, lines, if_neg (by simp [hasIssues, hissues])]
  · have hne := mt r.sections_layout_eq_nil_iff.mp hissues
    rw [Layout.lines, Layout.parts_of_sections_ne_nil hne, map_lines_sections, lines,
      if_pos (by simpa [hasIssues] using hissues), ← sourceLines_layout]
    obtain ⟨b, blocks, hblocks⟩ : ∃ b blocks, r.byCategory = b :: blocks := by
      refine List.exists_cons_of_ne_nil ?_
      simpa [byCategory_eq_map_sections] using hne
    unfold Layout.sourceLines
    split
    · -- Nothing stands before the first section, so no empty line does either.
      have hfirst : addSection [] b = cards b.1 b.2 := by simp [addSection]
      rw [hblocks, List.foldl_cons, hfirst, foldl_addSection blocks (by simp [cards, heading])]
      rfl
    · exact (foldl_addSection r.byCategory (by simp)).symm

theorem text_layout : r.layout.text = r.text := by
  rw [Layout.text, lines_layout, text]

variable {r}

theorem IsOneLined.layout (h : r.IsOneLined) : r.layout.IsOneLined := by
  obtain ⟨hsource, hissues⟩ := h
  constructor
  · unfold Report.layout
    cases hr : r.source with
    | none => exact (by decide : IsLine "")
    | some s => exact hsource s (by simp [hr])
  · intro s hs i hi
    exact hissues i (r.flatMap_issues_perm.subset (List.mem_flatMap.mpr ⟨s, hs, hi⟩))

/-- Of two reports whose texts are one line each, the written reports are the same only if the
sources are, none and an empty one being alike, and so are the issues of each category, in order.
A written report has one layout; in it, every heading gives the number of the cards below it, and
the cards are those of the issues, one for each. -/
theorem byCategory_eq_of_text_eq (h : r.IsOneLined) :
    (∀ r' : Report, r'.IsOneLined → r.text = r'.text →
        r.source.getD "" = r'.source.getD "" ∧ r.byCategory = r'.byCategory)
      ∧ ∃ w : Layout, w.IsOneLined
        ∧ (∀ w' : Layout, w'.IsOneLined → (w'.text = r.text ↔ w' = w))
        ∧ (w.source = r.source.getD "" ∧
            r.byCategory = w.sections.map fun s => (s.category, s.issues))
        ∧ (∀ s ∈ w.sections, s.count = s.issues.length)
        ∧ (w.sections.flatMap Section.issues).Perm r.issues := by
  refine ⟨fun r' h' htext => ?_, r.layout, h.layout, fun w' hw' => ?_,
    ⟨rfl, r.byCategory_eq_map_sections⟩, fun s => r.count_eq_of_mem_layout, r.flatMap_issues_perm⟩
  · rw [← text_layout, ← text_layout] at htext
    have hlayout := Layout.text_injective h.layout h'.layout htext
    exact ⟨congrArg Layout.source hlayout, by
      rw [byCategory_eq_map_sections, byCategory_eq_map_sections, hlayout]⟩
  · rw [← text_layout]
    exact ⟨Layout.text_injective hw' h.layout, congrArg Layout.text⟩

/-- Issues whose texts look like other lines of a report, the later one of an earlier category. -/
def lookalike : Report where
  issues := [⟨.performance, .info, "[ERROR] SEO (1)", "-------", "== a ==\x0d"⟩,
    ⟨.seo, .error, "", cleanMessage, "    Fix: "⟩]
  warnings := ["html5lib parsing failed: no"]

/-- The issues in the order of the categories, from an empty source and without a warning. -/
def lookalikeInOrder : Report where
  source := some ""
  issues := lookalike.issues.reverse

theorem byCategory_eq_lookalike :
    lookalike.IsOneLined ∧ lookalikeInOrder.IsOneLined ∧ lookalike.text = lookalikeInOrder.text
      ∧ lookalike.byCategory = lookalikeInOrder.byCategory
      ∧ ∃ w : Layout, w.IsOneLined
        ∧ (∀ w' : Layout, w'.IsOneLined → (w'.text = lookalike.text ↔ w' = w))
        ∧ (w.source = "" ∧ lookalike.byCategory = w.sections.map fun s => (s.category, s.issues))
        ∧ (∀ s ∈ w.sections, s.count = s.issues.length)
        ∧ (w.sections.flatMap Section.issues).Perm lookalike.issues := by
  have hissues : ∀ i ∈ lookalike.issues, i.IsOneLined := by
    simp only [lookalike, List.forall_mem_cons, Issue.IsOneLined]
    decide
  have hone : lookalike.IsOneLined := ⟨by simp [lookalike], hissues⟩
  have hother : lookalikeInOrder.IsOneLined :=
    ⟨by simp [lookalikeInOrder, IsLine], fun i hi => hissues i (List.mem_reverse.mp hi)⟩
  have htext : lookalike.text = lookalikeInOrder.text := by decide +kernel
  have hspec := byCategory_eq_of_text_eq hone
  exact ⟨hone, hother, htext, (hspec.1 _ hother htext).2, hspec.2⟩

end Report

end PageAudit
