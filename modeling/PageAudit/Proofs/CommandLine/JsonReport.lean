import PageAudit.Markup.Readers
import PageAudit.Proofs.Audit.Agreement
import PageAudit.Proofs.CommandLine.Entries
import PageAudit.Proofs.Document.Failures
import PageAudit.Proofs.Rule.Filled

/-!
# The report on all inputs as JSON

What an audit leaves to write is sound: its issues are filled, or its error has no member twice
(`isSound_auditOne`). An entry that is sound is plain as JSON and tells of its input
(`Entry.tells_json`). So what a session puts on the output reads back as an array with one item for
each input, in order, and the items of some inputs do not depend on the others
(`run_json_items`).
-/

namespace PageAudit.CommandLine

open Json

/-! ## Items -/

/-- The name of the error as reports have it. -/
def errorName : Audit.Error → String
  | .document _ => Failure.Kind.parse.label
  | .file e => e.label

/-- The item tells of an input by its name, and of what its audit came to. -/
def Tells (item : Json) (name : String) (result : Except Audit.Error Report) : Prop :=
  item.field? "file" = some (.str name) ∧ match result with
    | .ok report => item.field? "status" = some (.str "success")
        ∧ ∃ j, item.field? "report" = some j ∧ Report.ofJson j = .ok report
    | .error e => item.field? "status" = some (.str "error")
        ∧ item.field? "error" = some (.str (errorName e))
        ∧ item.field? "message" = some (.str e.message)

/-- The result can be written without loss. -/
def IsSound : Except Audit.Error Report → Prop
  | .ok report => ∀ i ∈ report.issues, i.IsFilled
  | .error (.document e) => ∀ f, e.failure? = some f → IsPlain (.obj f.response)
  | .error (.file _) => True

theorem isSound_audit (a : Auditor) (readers : Readers) (markup : Source)
    (source : Option String) : IsSound (a.audit readers markup source).result := by
  rcases hread : (Document.read readers markup a.asked).result with e | d
  · rw [(a.result_audit_of_error source hread).1]
    exact fun f hf => Document.isPlain_response hread hf
  · rw [(a.result_audit_of_ok source hread).1]
    exact fun i hi => Page.isFilled_of_mem_evaluate hi

theorem isSound_auditOne (w : World) (a : Auditor) (input : Bytes) (name : String) :
    IsSound (auditOne w a input name).result := by
  unfold auditOne
  split
  · exact isSound_audit a w.readers _ _
  · unfold Auditor.auditFile
    dsimp only
    split
    · trivial
    · exact isSound_audit a w.readers _ _

theorem isSound_of_mem_entries (w : World) (a : Auditor) :
    ∀ {input : Bytes} {names : List String}, ∀ e ∈ entries w a input names, IsSound e.result
  | _, [], e, he => by
    simp [entries] at he
  | input, name :: names, e, he => by
    rcases List.mem_cons.mp he with rfl | he
    · exact isSound_auditOne w a input name
    · exact isSound_of_mem_entries w a e he

namespace Entry

theorem isPlain_json {e : Entry} (h : IsSound e.result) : IsPlain e.json := by
  obtain ⟨name, (e | e) | report⟩ := e
  · have hmembers : IsPlain (.obj (errorMembers (.document e))) := by
      cases hf : e.failure? with
      | none =>
        simp only [errorMembers, hf]
        exact .obj (by simp) (by simp [IsPlain.str])
      | some f =>
        simp only [errorMembers, hf]
        exact h f hf
    refine .cons ?_ (.str _) (.cons ?_ (.str _) hmembers) <;>
      cases hf : e.failure? <;> simp [errorMembers, hf, Failure.response]
  · exact .obj (by simp [errorMembers]) (by simp [errorMembers, IsPlain.str])
  · exact .obj (by simp) (by simp [IsPlain.str, report.isPlain_toJson])

theorem tells_json {e : Entry} (h : IsSound e.result) (hcovered : IsCovered e.result) :
    Tells e.json e.file e.result := by
  obtain ⟨name, (e | e) | report⟩ := e
  · obtain ⟨f, hf⟩ := Option.isSome_iff_exists.mp (hcovered _ rfl)
    simp [Tells, json, errorMembers, hf, Failure.response, field?, List.lookup_cons, errorName,
      Audit.Error.message, Document.Error.kind_of_failure? hf,
      Document.Error.message_of_failure? hf]
  · simp [Tells, json, errorMembers, field?, List.lookup_cons, errorName, Audit.Error.message]
  · simp [Tells, json, field?, List.lookup_cons, Report.ofJson_toJson h]

end Entry

/-! ## Runs -/

/-- The run comes to its end, and its output reads as an array of these items. -/
def Prints (w : World) (argv : List String) (items : List Json) : Prop :=
  ∃ outcome, run w argv = .done outcome ∧ parse? outcome.output = some (.arr items)

variable {w : World} {args : Arguments} {registry : Log.Registry} {a : Auditor}

/-- A session whose audits are all covered ends with the report on all inputs. -/
theorem session_eq (hformat : args.format = .json) (houtput : args.output = none)
    (hconfig : prepare w.environment args = .ok (registry, a))
    (hcovered : ∀ e ∈ entries w a w.input args.files, IsCovered e.result) :
    session w args
      = ⟨(auditAll w registry a w.input args.files).1
          ++ [.prints (Format.json.render (entries w a w.input args.files) ++ "\n")],
        .status (status args.failOn (entries w a w.input args.files))⟩ := by
  have haudits := snd_auditAll w a registry w.input args.files hcovered
  simp only [session, hconfig, haudits, hformat, houtput, deliver, nonEmpty, Option.filter_none]

theorem prints_entries {argv : List String} (hargs : Arguments.parse argv = .ok args)
    (hformat : args.format = .json) (houtput : args.output = none)
    (hconfig : prepare w.environment args = .ok (registry, a))
    (hcovered : ∀ e ∈ entries w a w.input args.files, IsCovered e.result) :
    Prints w argv ((entries w a w.input args.files).map Entry.json) := by
  have hplain : IsPlain (.arr ((entries w a w.input args.files).map Entry.json)) := by
    refine .arr fun x hx => ?_
    obtain ⟨e, he, rfl⟩ := List.mem_map.mp hx
    exact e.isPlain_json (isSound_of_mem_entries w a e he)
  have hquiet := isQuiet_auditAll w a registry w.input args.files
  refine ⟨session w args, by rw [run, hargs], ?_⟩
  rw [session_eq hformat houtput hconfig hcovered, Outcome.output_append_prints _ _ hquiet]
  exact parse?_pretty .ascii hplain (by simp [isSpace])

/-- If the audit of every input ends in a report or in an error that belongs into one, the output
reads as an array with one item for each input, in order, and each item tells of its input by its
name and of what its audit came to. And if the inputs are two lists in a row that do not both ask
for the standard input, the array is that of the first list followed by that of the second. -/
theorem run_json_items {argv : List String} (hargs : Arguments.parse argv = .ok args)
    (hformat : args.format = .json) (houtput : args.output = none)
    (hconfig : prepare w.environment args = .ok (registry, a))
    (hcovered : ∀ i, IsCovered (resultAt w a args.files i)) :
    (∃ item : Fin args.files.length → Json, Prints w argv (List.ofFn item)
        ∧ ∀ i, Tells (item i) args.files[i] (resultAt w a args.files i))
      ∧ ∀ as bs, args.files = as ++ bs → ¬ (inputName ∈ as ∧ inputName ∈ bs) →
        ∀ argvA argvB, Arguments.parse argvA = .ok { args with files := as } →
          Arguments.parse argvB = .ok { args with files := bs } →
          ∃ itemsA itemsB, Prints w argvA itemsA ∧ Prints w argvB itemsB
            ∧ Prints w argv (itemsA ++ itemsB) := by
  have hall := (forall_isCovered_iff w a).mpr hcovered
  have hprints := prints_entries hargs hformat houtput hconfig hall
  constructor
  · refine ⟨fun i => Entry.json ⟨args.files[i], resultAt w a args.files i⟩, ?_, fun i => ?_⟩
    · rw [entries_eq_ofFn, List.map_ofFn] at hprints
      exact hprints
    · exact Entry.tells_json (isSound_auditOne w a _ _) (hcovered i)
  · intro as bs hfiles hinput argvA argvB hargsA hargsB
    have hsplit := entries_append_of_not_both w a w.input hinput
    rw [← hfiles] at hsplit
    rw [hsplit] at hall hprints
    have hprintsA := prints_entries hargsA hformat houtput hconfig
      fun e he => hall e (List.mem_append_left _ he)
    have hprintsB := prints_entries hargsB hformat houtput hconfig
      fun e he => hall e (List.mem_append_right _ he)
    rw [List.map_append] at hprints
    exact ⟨_, _, hprintsA, hprintsB, hprints⟩

/-- A page, a file that is not there and an empty standard input. -/
theorem run_json_items_three :
    let w : World := {
      readers := Markup.readers
      tree := { files := [(["a.html"], "<p>Hi".toUTF8.toList)] } }
    let argv := ["--format", "json", "a.html", "b.html", "-"]
    let files := ["a.html", "b.html", "-"]
    (∃ item : Fin files.length → Json, Prints w argv (List.ofFn item)
        ∧ ∀ i, Tells (item i) files[i] (resultAt w {} files i))
      ∧ ∃ itemsA itemsB, Prints w ["--format", "json", "a.html"] itemsA
        ∧ Prints w ["--format", "json", "b.html", "-"] itemsB
        ∧ Prints w argv (itemsA ++ itemsB) := by
  intro w argv files
  have hargs : Arguments.parse argv = .ok { files, format := .json } := by decide +kernel
  have hcovered : ∀ i, IsCovered (resultAt w {} files i) := by decide +kernel
  have h := run_json_items hargs rfl rfl rfl hcovered
  exact ⟨h.1, h.2 ["a.html"] ["b.html", "-"] rfl (by decide) _ _
    (by decide +kernel) (by decide +kernel)⟩

end PageAudit.CommandLine
