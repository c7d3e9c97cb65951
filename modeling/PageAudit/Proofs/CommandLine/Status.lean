import PageAudit.Markup.Readers
import PageAudit.Proofs.CommandLine.Entries
import PageAudit.Proofs.Report.Severity

/-!
# The exit status

The status of a session is carried from input to input. What one more input does to it
(`IsStatus.after`) tells what all of them come to: 2 if one failed, otherwise 1 if one has an issue
that is serious enough, otherwise 0 (`isStatus_status`). That leaves no room for the order of the
inputs or for the format of the report, and two lists in a row have the greater of their statuses
(`exits_of_canDeliver`).

A session has an exit status only if its report can be put where it is wanted (`exits_iff`).
-/

namespace PageAudit.CommandLine

/-- 2 after a failure, otherwise 1 after an issue that is serious enough, otherwise 0. -/
inductive IsStatus (failed serious : Prop) : Nat → Prop where
  | failure (hfailed : failed) : IsStatus failed serious 2
  | issue (hfailed : ¬ failed) (hserious : serious) : IsStatus failed serious 1
  | fine (hfailed : ¬ failed) (hserious : ¬ serious) : IsStatus failed serious 0

namespace IsStatus

variable {failed failed' serious serious' : Prop} {code code' : Nat}

theorem congr (hfailed : failed ↔ failed') (hserious : serious ↔ serious')
    (h : IsStatus failed serious code) : IsStatus failed' serious' code := by
  rwa [← propext hfailed, ← propext hserious]

theorem unique (h : IsStatus failed serious code) (h' : IsStatus failed serious code') :
    code = code' := by
  cases h <;> cases h' <;> first | rfl | contradiction

theorem max (h : IsStatus failed serious code) (h' : IsStatus failed' serious' code') :
    IsStatus (failed ∨ failed') (serious ∨ serious') (Nat.max code code') := by
  cases h with
  | failure hfailed => cases h' <;> exact .failure (.inl hfailed)
  | issue hfailed hserious =>
    cases h' with
    | failure hfailed' => exact .failure (.inr hfailed')
    | issue hfailed' _ => exact .issue (not_or_intro hfailed hfailed') (.inl hserious)
    | fine hfailed' _ => exact .issue (not_or_intro hfailed hfailed') (.inl hserious)
  | fine hfailed hserious =>
    cases h' with
    | failure hfailed' => exact .failure (.inr hfailed')
    | issue hfailed' hserious' => exact .issue (not_or_intro hfailed hfailed') (.inr hserious')
    | fine hfailed' hserious' =>
      exact .fine (not_or_intro hfailed hfailed') (not_or_intro hserious hserious')

/-- One more input: a failure before it is not forgotten, nor is an issue. -/
theorem after {threshold : Option Severity} (e : Entry) (h : IsStatus failed serious code) :
    IsStatus (failed ∨ e.failed) (serious ∨ threshold.any (e.reaches ·))
      (statusAfter threshold code e) := by
  unfold statusAfter
  split
  · rename_i he
    exact .failure (.inr he)
  · rename_i he
    split
    · rename_i hraised
      obtain ⟨hreaches, hzero⟩ := Bool.and_eq_true_iff.mp hraised
      obtain rfl := eq_of_beq hzero
      cases h with
      | fine hfailed _ => exact .issue (not_or_intro hfailed he) (.inr hreaches)
    · rename_i hkept
      cases h with
      | failure hfailed => exact .failure (.inl hfailed)
      | issue hfailed hserious => exact .issue (not_or_intro hfailed he) (.inl hserious)
      | fine hfailed hserious =>
        have hreaches : ¬ threshold.any (e.reaches ·) := by simpa using hkept
        exact .fine (not_or_intro hfailed he) (not_or_intro hserious hreaches)

theorem foldl {threshold : Option Severity} :
    ∀ (es : List Entry) {failed serious : Prop} {code : Nat}, IsStatus failed serious code →
      IsStatus (failed ∨ ∃ e ∈ es, e.failed) (serious ∨ ∃ e ∈ es, threshold.any (e.reaches ·))
        (es.foldl (statusAfter threshold) code)
  | [], _, _, _, h => by simpa using h
  | e :: es, _, _, _, h => by
    refine (foldl es (h.after e)).congr ?_ ?_ <;>
      simp only [List.mem_cons, exists_eq_or_imp, or_assoc]

end IsStatus

/-- The status of a session tells whether an input failed and whether an issue was serious. -/
theorem isStatus_status (threshold : Option Severity) (es : List Entry) :
    IsStatus (∃ e ∈ es, e.failed) (∃ e ∈ es, threshold.any (e.reaches ·))
      (status threshold es) :=
  ((IsStatus.fine not_false not_false).foldl es).congr (by simp) (by simp)

theorem status_perm (threshold : Option Severity) {es es' : List Entry} (h : es.Perm es') :
    status threshold es = status threshold es' := by
  refine (isStatus_status threshold es).unique ((isStatus_status threshold es').congr ?_ ?_) <;>
    simp only [h.mem_iff]

theorem status_append (threshold : Option Severity) (es es' : List Entry) :
    status threshold (es ++ es') = max (status threshold es) (status threshold es') := by
  have hmax := (isStatus_status threshold es).max (isStatus_status threshold es')
  refine (isStatus_status threshold (es ++ es')).unique (hmax.congr ?_ ?_) <;>
    simp only [List.mem_append, or_and_right, exists_or]

/-! ## What the status tells of the inputs -/

theorem Entry.failed_iff (e : Entry) : e.failed ↔ ∃ error, e.result = .error error := by
  unfold failed
  split <;> simp [*]

theorem Entry.reaches_iff (e : Entry) (threshold : Severity) :
    e.reaches threshold ↔ ∃ report, e.result = .ok report
      ∧ ∃ i ∈ report.issues, i.severity.rank ≤ threshold.rank := by
  unfold reaches
  split <;> simp [*, Report.highestSeverity_any_iff]

variable (w : World) (a : Auditor) (files : List String)

/-- Some input could not be audited. -/
def SomeFails : Prop :=
  ∃ i e, resultAt w a files i = .error e

/-- There is a threshold, and the report on some input has an issue of that severity or of a more
serious one. -/
def SomeReaches (threshold : Option Severity) : Prop :=
  ∃ s ∈ threshold, ∃ i report, resultAt w a files i = .ok report
    ∧ ∃ issue ∈ report.issues, issue.severity.rank ≤ s.rank

theorem someFails_iff : (∃ e ∈ entries w a w.input files, e.failed) ↔ SomeFails w a files := by
  simp only [mem_entries_iff, Entry.failed_iff, exists_exists_eq_and, SomeFails]

theorem someReaches_iff (threshold : Option Severity) :
    (∃ e ∈ entries w a w.input files, threshold.any (e.reaches ·))
      ↔ SomeReaches w a files threshold := by
  simp only [mem_entries_iff, exists_exists_eq_and, SomeReaches, Option.any_eq_true,
    Entry.reaches_iff, Option.mem_def]
  rw [exists_comm]
  simp only [exists_and_left]

/-! ## Runs -/

/-- The run comes to its end with this exit status. -/
def Exits (w : World) (argv : List String) (code : Nat) : Prop :=
  ∃ outcome, run w argv = .done outcome ∧ outcome.ending = .status code

/-- The report can be put where it is wanted: on the output, or into a file that is there or could
be made. -/
def CanDeliver (tree : FileTree) (output : Option String) : Prop :=
  ∀ name ∈ nonEmpty output, ∃ place, tree.target (Path.ofText name) = .ok place

theorem canDeliver_iff (tree : FileTree) (output : Option String) (text : String) :
    CanDeliver tree output ↔ ∃ effects, deliver tree output text = .ok effects := by
  unfold CanDeliver deliver
  cases nonEmpty output with
  | none => simp
  | some name =>
    cases htarget : tree.target (Path.ofText name) with
    | error cause => simp [htarget]
    | ok place => simp [htarget]

variable {w : World} {args : Arguments} {registry : Log.Registry} {a : Auditor}

/-- If all audits are covered, there is an exit status exactly if the report can be delivered. -/
theorem exits_iff {argv : List String} (hargs : Arguments.parse argv = .ok args)
    (hconfig : prepare w.environment args = .ok (registry, a))
    (hcovered : ∀ e ∈ entries w a w.input args.files, IsCovered e.result) (code : Nat) :
    Exits w argv code ↔ CanDeliver w.tree args.output
      ∧ code = status args.failOn (entries w a w.input args.files) := by
  have haudits := snd_auditAll w a registry w.input args.files hcovered
  rw [canDeliver_iff _ _ (args.format.render (entries w a w.input args.files) ++ "\n")]
  simp only [Exits, run, hargs, session, hconfig, haudits, Answer.done.injEq]
  cases deliver w.tree args.output
      (args.format.render (entries w a w.input args.files) ++ "\n") <;>
    simp [eq_comm]

/-- If the audit of every input ends in a report or in an error that belongs into one, and the
report on them can be delivered, the session ends with 2 if some input could not be audited,
otherwise with 1 if some issue reaches the threshold, otherwise with 0. It ends with the same status
for the same inputs in another order and for a report of the other format; and if the inputs are two
lists in a row that do not both ask for the standard input, it ends with the greater of the statuses
of the two lists. -/
theorem exits_of_canDeliver {argv : List String} (hargs : Arguments.parse argv = .ok args)
    (hconfig : prepare w.environment args = .ok (registry, a))
    (hcovered : ∀ i, IsCovered (resultAt w a args.files i))
    (hdeliver : CanDeliver w.tree args.output) :
    ∃ code, Exits w argv code
      ∧ IsStatus (SomeFails w a args.files) (SomeReaches w a args.files args.failOn) code
      ∧ (∀ files format argv', args.files.Perm files →
          Arguments.parse argv' = .ok { args with files, format } → Exits w argv' code)
      ∧ ∀ as bs, args.files = as ++ bs → ¬ (inputName ∈ as ∧ inputName ∈ bs) →
          ∀ argvA argvB, Arguments.parse argvA = .ok { args with files := as } →
            Arguments.parse argvB = .ok { args with files := bs } →
            ∃ codeA codeB, Exits w argvA codeA ∧ Exits w argvB codeB ∧ code = max codeA codeB := by
  have hall := (forall_isCovered_iff w a).mpr hcovered
  refine ⟨status args.failOn (entries w a w.input args.files),
    (exits_iff hargs hconfig hall _).mpr ⟨hdeliver, rfl⟩,
    (isStatus_status _ _).congr (someFails_iff w a _) (someReaches_iff w a _ _), ?_, ?_⟩
  · intro files format argv' hfiles hargs'
    have hperm := entries_perm w a hfiles w.input
    rw [status_perm args.failOn hperm]
    exact (exits_iff hargs' hconfig (fun e he => hall e (hperm.mem_iff.mpr he)) _).mpr
      ⟨hdeliver, rfl⟩
  · intro as bs hfiles hinput argvA argvB hargsA hargsB
    have hsplit := entries_append_of_not_both w a w.input hinput
    rw [← hfiles] at hsplit
    rw [hsplit] at hall ⊢
    refine ⟨_, _, (exits_iff hargsA hconfig ?_ _).mpr ⟨hdeliver, rfl⟩,
      (exits_iff hargsB hconfig ?_ _).mpr ⟨hdeliver, rfl⟩, status_append _ _ _⟩
    · exact fun e he => hall e (List.mem_append_left _ he)
    · exact fun e he => hall e (List.mem_append_right _ he)

/-- A page with issues and a file that is not there. -/
theorem exits_missing_file :
    let w : World := {
      readers := Markup.readers
      tree := { files := [(["a.html"], "<p>Hi".toUTF8.toList)] } }
    let argv := ["--fail-on", "warning", "-o", "report", "a.html", "b.html"]
    let files := ["a.html", "b.html"]
    ∃ code, Exits w argv code
      ∧ IsStatus (SomeFails w {} files) (SomeReaches w {} files (some .warning)) code
      ∧ Exits w
        ["--fail-on", "warning", "-o", "report", "--format", "json", "b.html", "a.html"] code
      ∧ ∃ codeA codeB, Exits w ["--fail-on", "warning", "-o", "report", "a.html"] codeA
        ∧ Exits w ["--fail-on", "warning", "-o", "report", "b.html"] codeB
        ∧ code = max codeA codeB := by
  intro w argv files
  have hargs : Arguments.parse argv
      = .ok { files, output := some "report", failOn := some .warning } := by decide +kernel
  have hcovered : ∀ i, IsCovered (resultAt w {} files i) := by decide +kernel
  have hdeliver : CanDeliver w.tree (some "report") := by
    rintro name ⟨⟩
    exact ⟨["report"], by decide +kernel⟩
  obtain ⟨code, hcode, hstatus, hperm, happend⟩ :=
    exits_of_canDeliver hargs rfl hcovered hdeliver
  exact ⟨code, hcode, hstatus, hperm ["b.html", "a.html"] .json _ (.swap _ _ _) (by decide +kernel),
    happend ["a.html"] ["b.html"] rfl (by decide) _ _ (by decide +kernel) (by decide +kernel)⟩

/-- A report that is wanted in a folder that is not there leaves the session without a status. -/
theorem not_exits_missing_folder :
    let w : World := {
      readers := Markup.readers
      tree := {
        files := [(["bare.html"], "<html><head></head><body></body></html>".toUTF8.toList)] } }
    let argv := ["bare.html", "-o", "no/dir.txt"]
    ∃ args registry a, Arguments.parse argv = .ok args
      ∧ prepare w.environment args = .ok (registry, a)
      ∧ (∀ i, IsCovered (resultAt w a args.files i))
      ∧ ∀ code, ¬ Exits w argv code := by
  intro w argv
  have hargs : Arguments.parse argv
      = .ok { files := ["bare.html"], output := some "no/dir.txt" } := by decide +kernel
  have hcovered : ∀ i, IsCovered (resultAt w {} ["bare.html"] i) := by decide +kernel
  refine ⟨_, _, {}, hargs, rfl, hcovered, fun code hcode => ?_⟩
  have hall := (forall_isCovered_iff w {}).mpr hcovered
  obtain ⟨place, hplace⟩ := ((exits_iff hargs rfl hall code).mp hcode).1 "no/dir.txt" rfl
  have htarget : w.tree.target (Path.ofText "no/dir.txt") = .error .notFound := by decide +kernel
  rw [htarget] at hplace
  cases hplace

end PageAudit.CommandLine
