import Mathlib.Data.List.OfFn
import PageAudit.CommandLine.Session

/-!
# Inputs one after the other

As long as every audit ends in a report or in an error that belongs into one, the loop over the
inputs goes to its end and has one entry for each of them, in order (`snd_auditAll`). The entry of
an input depends on the inputs before it in one way only: the standard input is empty once it has
been read (`entries_eq_ofFn`). So the entries of two lists in a row are those of the one followed by
those of the other, unless both ask for the standard input (`entries_append_of_not_both`), and
inputs in another order have the same entries in another order (`entries_perm`). All the while
nothing is put on the output (`isQuiet_auditAll`).
-/

namespace PageAudit.CommandLine

/-- What is left of the standard input after other inputs. -/
def inputAfter (input : Bytes) (before : List String) : Bytes :=
  if inputName ∈ before then [] else input

/-- What the audit of an input comes to, after the inputs before it. -/
def resultAt (w : World) (a : Auditor) (files : List String) (i : Fin files.length) :
    Except Audit.Error Report :=
  (auditOne w a (inputAfter w.input (files.take i)) files[i]).result

/-- A report, or an error that belongs into one. -/
def IsCovered (result : Except Audit.Error Report) : Prop :=
  ∀ e, result = .error e → isReported e

instance : DecidablePred IsCovered
  | .ok _ => isTrue fun _ h => nomatch h
  | .error e => decidable_of_iff (isReported e)
      ⟨fun he _ h => Except.error.inj h ▸ he, fun h => h e rfl⟩

/-- The entries of inputs that are audited one after the other. -/
def entries (w : World) (a : Auditor) (input : Bytes) : List String → List Entry
  | [] => []
  | name :: names =>
    ⟨name, (auditOne w a input name).result⟩ :: entries w a (inputAfter input [name]) names

@[simp]
theorem inputAfter_nil (input : Bytes) : inputAfter input [] = input :=
  rfl

theorem inputAfter_append (input : Bytes) (before more : List String) :
    inputAfter (inputAfter input before) more = inputAfter input (before ++ more) := by
  by_cases hbefore : inputName ∈ before <;> simp [inputAfter, hbefore]

theorem inputAfter_singleton (input : Bytes) (name : String) :
    inputAfter input [name] = if name = inputName then [] else input := by
  simp [inputAfter, eq_comm]

variable (w : World) (a : Auditor)

/-- At its position, each input has the entry that its own audit gives. -/
theorem entries_eq_ofFn :
    ∀ (input : Bytes) (names : List String), entries w a input names
      = List.ofFn fun i : Fin names.length =>
          ⟨names[i], (auditOne w a (inputAfter input (names.take i)) names[i]).result⟩
  | _, [] => rfl
  | input, name :: names => by
    rw [entries, entries_eq_ofFn, List.ofFn_succ]
    simp [inputAfter_append]

theorem entries_append :
    ∀ (input : Bytes) (as bs : List String), entries w a input (as ++ bs)
      = entries w a input as ++ entries w a (inputAfter input as) bs
  | _, [], _ => rfl
  | input, name :: as, bs => by
    simp only [List.cons_append, entries, entries_append _ as bs, inputAfter_append,
      List.nil_append]

/-- Inputs among which the standard input is not do not depend on it. -/
theorem entries_congr_input (input input' : Bytes) :
    ∀ {names : List String}, inputName ∉ names →
      entries w a input names = entries w a input' names
  | [], _ => rfl
  | name :: names, h => by
    simp only [List.mem_cons, not_or] at h
    have hname : name ≠ inputName := fun heq => h.1 heq.symm
    have htail := entries_congr_input input input' h.2
    simp only [entries, auditOne, inputAfter_singleton, hname, ↓reduceIte, htail]

theorem entries_append_of_not_both (input : Bytes) {as bs : List String}
    (h : ¬ (inputName ∈ as ∧ inputName ∈ bs)) :
    entries w a input (as ++ bs) = entries w a input as ++ entries w a input bs := by
  rw [entries_append]
  by_cases has : inputName ∈ as
  · rw [entries_congr_input w a _ input fun hbs => h ⟨has, hbs⟩]
  · simp [inputAfter, has]

theorem mem_entries_iff {files : List String} {e : Entry} :
    e ∈ entries w a w.input files ↔ ∃ i, ⟨files[i], resultAt w a files i⟩ = e := by
  rw [entries_eq_ofFn, List.mem_ofFn]
  rfl

theorem forall_isCovered_iff {files : List String} :
    (∀ e ∈ entries w a w.input files, IsCovered e.result)
      ↔ ∀ i, IsCovered (resultAt w a files i) := by
  simp only [mem_entries_iff, forall_exists_index, forall_apply_eq_imp_iff]

/-- Of two inputs that are not both the standard input, the second has its own result. -/
theorem auditOne_inputAfter (input : Bytes) {before name : String}
    (h : ¬ (before = inputName ∧ name = inputName)) :
    auditOne w a (inputAfter input [before]) name = auditOne w a input name := by
  by_cases hname : name = inputName
  · have hbefore : before ≠ inputName := fun heq => h ⟨heq, hname⟩
    rw [inputAfter_singleton, if_neg hbefore]
  · simp only [auditOne, hname, ↓reduceIte]

/-- The order of the inputs only decides on the order of the entries. -/
theorem entries_perm {names names' : List String} (h : names.Perm names') :
    ∀ input : Bytes, (entries w a input names).Perm (entries w a input names') := by
  induction h with
  | nil => exact fun _ => .refl _
  | cons name _ ih => exact fun input => (ih _).cons _
  | trans _ _ ih ih' => exact fun input => (ih input).trans (ih' input)
  | swap first second names =>
    intro input
    by_cases hboth : first = inputName ∧ second = inputName
    · rw [hboth.1, hboth.2]
    · have hboth' : ¬ (second = inputName ∧ first = inputName) := fun h => hboth h.symm
      have hrest : inputAfter (inputAfter input [second]) [first]
          = inputAfter (inputAfter input [first]) [second] := by
        unfold inputAfter
        split <;> split <;> rfl
      simp only [entries, auditOne_inputAfter w a input hboth,
        auditOne_inputAfter w a input hboth', hrest]
      exact .swap _ _ _

variable (registry : Log.Registry)

theorem snd_auditAll :
    ∀ (input : Bytes) (names : List String),
      (∀ e ∈ entries w a input names, IsCovered e.result) →
      (auditAll w registry a input names).2 = .ok (entries w a input names)
  | _, [], _ => rfl
  | input, name :: names, h => by
    have hhead : IsCovered (auditOne w a input name).result := h _ List.mem_cons_self
    have htail := snd_auditAll (inputAfter input [name]) names
      fun e he => h e (List.mem_cons_of_mem _ he)
    rw [inputAfter_singleton] at htail
    simp only [auditAll, entries, inputAfter_singleton]
    split
    · simp only [htail, Except.map]
    · rename_i e he
      simp only [hhead e he, ↓reduceIte, htail, Except.map]

/-! ## Effects -/

/-- The effect puts nothing on the output. -/
def Effect.IsQuiet : Effect → Prop
  | .prints _ => False
  | _ => True

section Kinds
variable {P : Effect → Prop} (htells : ∀ text, P (.tells text)) (hwaits : ∀ delay, P (.waits delay))
include htells hwaits

theorem forall_mem_noteEffects (n : Audit.Note) : ∀ e ∈ noteEffects registry n, P e := by
  intro e he
  cases n with
  | logged record =>
    simp only [noteEffects] at he
    split at he
    · cases he
    · exact List.eq_of_mem_singleton he ▸ htells _
  | active step => exact List.eq_of_mem_singleton he ▸ htells _
  | slept delay => exact List.eq_of_mem_singleton he ▸ hwaits delay
  | completed step => exact List.eq_of_mem_singleton he ▸ htells _

/-- While inputs are audited, the console is told and time passes, and nothing else happens. -/
theorem forall_mem_auditAll :
    ∀ (input : Bytes) (names : List String), ∀ e ∈ (auditAll w registry a input names).1, P e
  | _, [], e, he => by
    simp [auditAll] at he
  | input, name :: names, e, he => by
    have hnotes : ∀ e ∈ .tells s!"Auditing: {name}\n"
        :: (auditOne w a input name).notes.flatMap (noteEffects registry), P e := by
      simp only [List.mem_cons, List.mem_flatMap]
      rintro e (rfl | ⟨n, -, hn⟩)
      · exact htells _
      · exact forall_mem_noteEffects registry htells hwaits n e hn
    have hgoOn : ∀ (entry : Entry), ∀ e ∈ (.tells s!"Auditing: {name}\n"
        :: (auditOne w a input name).notes.flatMap (noteEffects registry))
        ++ .tells entry.verdict
          :: (auditAll w registry a (if name = inputName then [] else input) names).1,
        P e := by
      intro entry e he
      rcases List.mem_append.mp he with he | he
      · exact hnotes e he
      · rcases List.mem_cons.mp he with rfl | he
        · exact htells _
        · exact forall_mem_auditAll _ names e he
    simp only [auditAll] at he
    split at he
    · exact hgoOn _ e he
    · split at he
      · exact hgoOn _ e he
      · exact hnotes e he

end Kinds

theorem isQuiet_auditAll (input : Bytes) (names : List String) :
    ∀ e ∈ (auditAll w registry a input names).1, e.IsQuiet :=
  forall_mem_auditAll w a registry (fun _ => trivial) (fun _ => trivial) input names

theorem Outcome.output_cons_of_isQuiet {e : Effect} (h : e.IsQuiet) (effects : List Effect)
    (ending : Ending) :
    (Outcome.mk (e :: effects) ending).output = (Outcome.mk effects ending).output := by
  cases e with
  | prints text => exact h.elim
  | tells text => rfl
  | waits delay => rfl
  | saves place text => rfl

/-- Text after quiet effects is all the output. -/
theorem Outcome.output_append_prints (text : String) (ending : Ending) :
    ∀ {effects : List Effect}, (∀ e ∈ effects, e.IsQuiet) →
      (Outcome.mk (effects ++ [.prints text]) ending).output = text
  | [], _ => by simp [output]
  | e :: effects, h => by
    rw [List.cons_append, output_cons_of_isQuiet (h e List.mem_cons_self)]
    exact output_append_prints text ending fun f hf => h f (List.mem_cons_of_mem _ hf)

end PageAudit.CommandLine
