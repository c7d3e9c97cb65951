import Mathlib.Data.List.Infix
import PageAudit.Markup.Readers
import PageAudit.Proofs.Audit.Agreement

/-!
# The progress of audits

What an auditor tells of its progress, and how often it waits, is fixed by whether the page can be
read: six steps from beginning to end if it can, and the beginning of the first if it cannot
(`Auditor.events_audit`). Whatever requests were served before, the events of the next are put
after theirs. So, of the audit that is going on, at most one step is active at any moment, no step
is completed that has not begun, and nothing is checked on a page that could not be read
(`Auditor.serveAll_timeline`).
-/

namespace PageAudit

namespace Audit

/-- Anything but a record in the log. -/
def Note.isEvent : Note → Bool
  | logged _ => false
  | _ => true

/-- The notes that are no records, in order. -/
def events (notes : List Note) : List Note :=
  notes.filter Note.isEvent

/-- The steps of an audit, in order. -/
def Step.all : List Step :=
  [reading, checking .seo, checking .accessibility, checking .structural, checking .performance,
    compiling]

example : Step.all.map Step.label = ["Parsing HTML Structure...", "Running SEO Analysis...",
    "Checking Accessibility...", "Reviewing HTML Structure...", "Scanning for Performance...",
    "Compiling Report..."] :=
  rfl

theorem events_append (ns ms : List Note) : events (ns ++ ms) = events ns ++ events ms :=
  List.filter_append ns ms

theorem events_logged (rs : List Log.Record) : events (rs.map .logged) = [] := by
  rw [events, List.filter_eq_nil_iff]
  intro n hn
  obtain ⟨r, -, rfl⟩ := List.mem_map.mp hn
  exact Bool.false_ne_true

/-! ## Steps that are active -/

/-- The steps that are active after a note, from those that were before. -/
def stepsAfter (steps : List Step) : Note → List Step
  | .active s => steps ++ [s]
  | .completed s => steps.erase s
  | _ => steps

/-- The steps that have begun and are not completed. -/
def openSteps (notes : List Note) : List Step :=
  notes.foldl stepsAfter []

/-- From these active steps on, no more than one is active at any moment, and only an active one is
completed. -/
def InOrder (steps : List Step) : List Note → Prop
  | [] => steps.length ≤ 1
  | n :: ns =>
    steps.length ≤ 1 ∧ (∀ s, n = .completed s → s ∈ steps) ∧ InOrder (stepsAfter steps n) ns

theorem inOrder_append : ∀ {steps : List Step} {ns ms : List Note},
    InOrder steps (ns ++ ms) ↔ InOrder steps ns ∧ InOrder (ns.foldl stepsAfter steps) ms
  | steps, [], [] => by simp [InOrder]
  | steps, [], m :: ms => by
    simp only [List.nil_append, InOrder, List.foldl_nil]
    exact ⟨fun h => ⟨h.1, h⟩, fun h => h.2⟩
  | steps, n :: ns, ms => by
    simp only [List.cons_append, InOrder, List.foldl_cons, inOrder_append, and_assoc]

namespace InOrder

variable {steps : List Step} {ns ms : List Note}

theorem of_isPrefix (h : InOrder steps ms) (hns : ns <+: ms) : InOrder steps ns := by
  obtain ⟨rest, rfl⟩ := hns
  exact (inOrder_append.mp h).1

theorem length_foldl_le (h : InOrder steps ns) : (ns.foldl stepsAfter steps).length ≤ 1 := by
  rw [← List.append_nil ns] at h
  exact (inOrder_append.mp h).2

theorem mem_of_completed {s : Step} (h : InOrder steps (ns ++ .completed s :: ms)) :
    s ∈ ns.foldl stepsAfter steps :=
  (inOrder_append.mp h).2.2.1 s rfl

end InOrder

/-! ## Moments -/

/-- What has happened up to some moment is nothing yet, or all of what came of some elements and a
part of what came of the next. -/
theorem eq_append_of_isPrefix_flatMap {α β : Type} {f : α → List β} :
    ∀ {xs : List α} {moment : List β}, moment <+: xs.flatMap f →
      moment = [] ∨ ∃ past x rest current, xs = past ++ x :: rest
        ∧ moment = past.flatMap f ++ current ∧ current <+: f x
  | [], moment, h => .inl (List.prefix_nil.mp h)
  | x :: xs, moment, h => by
    right
    rw [List.flatMap_cons] at h
    rcases List.prefix_or_prefix_of_prefix h (List.prefix_append (f x) _) with hx | ⟨later, rfl⟩
    · exact ⟨[], x, xs, moment, rfl, rfl, hx⟩
    · rcases eq_append_of_isPrefix_flatMap ((List.prefix_append_right_inj _).mp h) with
        rfl | ⟨past, y, rest, current, rfl, rfl, hy⟩
      · exact ⟨[], x, xs, f x, rfl, by simp, List.prefix_rfl⟩
      · exact ⟨x :: past, y, rest, current, rfl, by simp, hy⟩

/-! ## Ledgers -/

namespace Ledger

theorem notes_foldl_record :
    ∀ (records : List Log.Record) (l : Ledger), (records.foldl record l).notes = l.notes
  | [], _ => rfl
  | r :: records, l => notes_foldl_record records (l.record r)

theorem notes_enter (l : Ledger) (run : Run) : (l.enter run).notes = l.notes ++ run.notes := by
  simp only [enter, notes_foldl_record]

end Ledger

end Audit

open Audit

namespace Auditor

/-- A step is announced and, if there is a delay, waited for. -/
def opening (a : Auditor) (s : Step) : List Note :=
  .active s :: if a.delay.isZero then [] else [.slept a.delay]

/-- A step from beginning to end. -/
def stretch (a : Auditor) (s : Step) : List Note :=
  a.opening s ++ [.completed s]

/-- The events of an audit: all steps if the page can be read, otherwise the beginning of the
first. -/
def timeline (a : Auditor) (readers : Readers) (r : Request) : List Note :=
  match (Document.read readers r.markup a.asked).result with
  | .ok _ => Step.all.flatMap a.stretch
  | .error _ => a.opening .reading

variable (a : Auditor)

theorem foldl_stretch (s : Step) : (a.stretch s).foldl stepsAfter [] = [] := by
  simp only [stretch, opening]
  split <;> simp [stepsAfter]

theorem inOrder_opening (s : Step) : InOrder [] (a.opening s) := by
  simp only [opening]
  split <;> simp [InOrder, stepsAfter]

theorem inOrder_stretch (s : Step) : InOrder [] (a.stretch s) := by
  simp only [stretch, opening]
  split <;> simp [InOrder, stepsAfter]

/-- Every step ends before the next one begins. -/
theorem inOrder_flatMap_stretch : ∀ ss : List Step, InOrder [] (ss.flatMap a.stretch)
  | [] => Nat.zero_le 1
  | s :: ss => by
    rw [List.flatMap_cons, inOrder_append, foldl_stretch]
    exact ⟨a.inOrder_stretch s, inOrder_flatMap_stretch ss⟩

theorem inOrder_timeline (readers : Readers) (r : Request) : InOrder [] (a.timeline readers r) := by
  simp only [timeline]
  split
  · exact a.inOrder_flatMap_stretch Step.all
  · exact a.inOrder_opening .reading

/-- Nothing is checked on a page that could not be read. -/
theorem not_mem_timeline_of_error {readers : Readers} {r : Request} {e : Document.Error}
    (h : (Document.read readers r.markup a.asked).result = .error e) (c : Category) :
    .active (.checking c) ∉ a.timeline readers r := by
  simp only [timeline, h, opening]
  split <;> simp

/-! ## Audits -/

section Announced

variable {a} (h : a.announces)
include h

theorem events_begin (s : Step) : events (a.begin s) = a.opening s := by
  simp only [begin, opening, h, ↓reduceIte]
  split <;> rfl

theorem events_finish (s : Step) : events (a.finish s) = [.completed s] := by
  simp only [finish, h, ↓reduceIte]
  rfl

theorem events_whole (s : Step) : events (a.whole s) = a.stretch s := by
  rw [whole, events_append, events_begin h, events_finish h, stretch]

theorem events_checkAll (page : Page) :
    ∀ cs : List Category,
      events (a.checkAll page cs).2 = (cs.map Step.checking).flatMap a.stretch
  | [] => rfl
  | c :: cs => by
    simp only [checkAll, List.map_cons, List.flatMap_cons]
    rw [events_append, events_whole h, events_checkAll page cs]

theorem events_auditDocument (d : Document) (source : Option String) :
    events (a.auditDocument d source).2 = Step.all.tail.flatMap a.stretch := by
  have hlast : ∀ message, events [info message] = [] := fun _ => rfl
  simp only [auditDocument]
  rw [events_append, events_append, events_checkAll h, events_whole h, hlast, List.append_nil]
  simp [Step.all, Category.all]

theorem events_audit (readers : Readers) (r : Request) :
    events (a.audit readers r.markup r.source).notes = a.timeline readers r := by
  have hread : (Document.read readers r.markup (a.reader.map Reader.label)).result
      = (Document.read readers r.markup a.asked).result := rfl
  simp only [audit, timeline, hread]
  split
  · rename_i e he
    simp only [he, events_append, events_begin h, events_logged, List.append_nil]
  · rename_i d hd
    simp only [hd, events_append, events_begin h, events_logged, events_finish h,
      events_auditDocument h, List.append_nil]
    rfl

theorem events_serveAll (readers : Readers) :
    ∀ (rs : List Request) (l : Ledger), events (a.serveAll readers l rs).1.notes
      = events l.notes ++ rs.flatMap (a.timeline readers)
  | [], l => by simp [serveAll]
  | r :: rs, l => by
    have hserve : events (a.serve readers l r).1.notes
        = events l.notes ++ a.timeline readers r := by
      rw [serve, Ledger.notes_enter, events_append, events_audit h]
    simp only [serveAll, List.flatMap_cons]
    rw [events_serveAll readers rs, hserve, List.append_assoc]

/-- An auditor that tells of its progress goes through the requests one after the other, with the
events of each audit after those of the ones before. At any moment, of the audit that is going on,
at most one step is active; a step that is completed was active; and if the page cannot be read,
nothing is checked. -/
theorem serveAll_timeline (readers : Readers) (l : Ledger) (rs : List Request) :
    events (a.serveAll readers l rs).1.notes = events l.notes ++ rs.flatMap (a.timeline readers)
      ∧ ∀ moment, moment <+: rs.flatMap (a.timeline readers) →
          moment = [] ∨ ∃ past r rest current, rs = past ++ r :: rest
            ∧ moment = past.flatMap (a.timeline readers) ++ current
            ∧ current <+: a.timeline readers r
            ∧ (openSteps current).length ≤ 1
            ∧ (∀ before s after, current = before ++ .completed s :: after →
                s ∈ openSteps before)
            ∧ ((∃ e, (Document.read readers r.markup a.asked).result = .error e) →
                ∀ c, .active (.checking c) ∉ current) := by
  refine ⟨events_serveAll h readers rs l, fun moment hmoment => ?_⟩
  rcases eq_append_of_isPrefix_flatMap hmoment with
    hnil | ⟨past, r, rest, current, hrs, hsplit, hcurrent⟩
  · exact .inl hnil
  · have horder : InOrder [] current := (a.inOrder_timeline readers r).of_isPrefix hcurrent
    refine .inr ⟨past, r, rest, current, hrs, hsplit, hcurrent, horder.length_foldl_le, ?_, ?_⟩
    · rintro before s after rfl
      exact horder.mem_of_completed
    · rintro ⟨e, he⟩ c hmem
      exact a.not_mem_timeline_of_error he c (hcurrent.subset hmem)

end Announced

/-- A blank text and a page, looked at when the first check of the page has just begun. -/
theorem serveAll_timeline_blank_first :
    let a : Auditor := { delay := .ofRatio false 1 2, announces := true }
    let blank : Request := ⟨.text " ", none⟩
    let page : Request := ⟨.text "<p>Hi", some "hi.html"⟩
    let rs := [blank, page]
    let moment := a.opening .reading ++ a.stretch .reading ++ [.active (.checking .seo)]
    a.announces
      ∧ events (a.serveAll Markup.readers {} rs).1.notes
        = a.opening .reading ++ Step.all.flatMap a.stretch
      ∧ moment <+: rs.flatMap (a.timeline Markup.readers)
      ∧ ∃ past r rest current, rs = past ++ r :: rest
        ∧ moment = past.flatMap (a.timeline Markup.readers) ++ current
        ∧ current <+: a.timeline Markup.readers r
        ∧ (openSteps current).length ≤ 1
        ∧ (∀ before s after, current = before ++ .completed s :: after → s ∈ openSteps before)
        ∧ ((∃ e, (Document.read Markup.readers r.markup a.asked).result = .error e) →
            ∀ c, .active (.checking c) ∉ current) := by
  intro a blank page rs moment
  have htimeline : rs.flatMap (a.timeline Markup.readers)
      = a.opening .reading ++ Step.all.flatMap a.stretch := by decide +kernel
  have hmoment : moment <+: rs.flatMap (a.timeline Markup.readers) := by
    rw [htimeline]
    decide +kernel
  obtain ⟨hevents, hmoments⟩ := serveAll_timeline (a := a) rfl Markup.readers {} rs
  rw [htimeline] at hevents
  exact ⟨rfl, hevents, hmoment, (hmoments moment hmoment).resolve_left (by decide +kernel)⟩

end Auditor

end PageAudit
