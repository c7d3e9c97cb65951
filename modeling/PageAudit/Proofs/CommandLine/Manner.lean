import PageAudit.Markup.Readers
import PageAudit.Proofs.Audit.Agreement
import PageAudit.Proofs.CommandLine.Added
import PageAudit.Proofs.CommandLine.Entries
import PageAudit.Proofs.Number.Duration

/-!
# The manner of a session

Three options only say in which manner a session goes about its task (`Extra.IsManner`): whether it
shows its progress, how much it logs, and how long it waits before a step. With them the arguments
still set the same task (`Arguments.SameTask`), and a session that could be prepared still can be:
where an option says what the environment would have said, the environment is not asked, and the
delay is a duration (`prepare_sameTask`).

An auditor finds the same at any pace, with progress shown or not (`snd_auditAll_eq`), and as long
as it goes through the inputs, there is nothing on the output and no file is written. So the session
ends in the same way with the same output and the same files (`session_sameTask`), wherever the
options have been added (`endsLike_of_added`).
-/

namespace PageAudit.CommandLine

open Parsing

/-! ## The task -/

/-- The option asks for progress, for a verbose log, or for a delay that is a duration. -/
def Extra.IsManner (e : Extra) : Prop :=
  e.flag = .progress ∨ e.flag = .verbose
    ∨ e.flag = .delay ∧ ∃ text ∈ e.value, ∃ d ∈ Double.parse? text, d.IsDuration

/-- The same task, to be done in another manner. -/
structure Arguments.SameTask (a a' : Arguments) : Prop where
  files : a'.files = a.files
  format : a'.format = a.format
  output : a'.output = a.output
  reader : a'.reader = a.reader
  failOn : a'.failOn = a.failOn
  verbose : a.verbose → a'.verbose
  delay : a'.delay = a.delay ∨ ∃ d ∈ a'.delay, d.isNegative = false

open Arguments

variable {a a' b : Arguments} {f : Flag}

theorem switch_sameTask (h : SameTask a a') (hb : switch a f = .ok b) :
    ∃ b', switch a' f = .ok b' ∧ SameTask b b' := by
  cases f with
  | help => cases hb
  | progress => cases hb; exact ⟨_, rfl, { h with }⟩
  | verbose => cases hb; exact ⟨_, rfl, { h with verbose := fun _ => rfl }⟩
  | _ => cases hb; exact ⟨_, rfl, h⟩

theorem assign_sameTask {value : String} (h : SameTask a a') (hb : assign a f value = .ok b) :
    ∃ b', assign a' f value = .ok b' ∧ SameTask b b' := by
  obtain ⟨_, hset, rfl, hassign⟩ := exists_sets hb
  refine ⟨_, hassign a', ?_⟩
  cases hset with
  | format => exact { h with format := rfl }
  | output => exact { h with output := rfl }
  | reader => exact { h with reader := rfl }
  | delay => exact { h with delay := .inl rfl }
  | failOn => exact { h with failOn := rfl }
  | nothing => exact h

theorem assign_delay {text : String} {d : Double} (hd : Double.parse? text = some d) :
    assign a .delay text = .ok { a with delay := some d } := by
  simp [assign, Flag.choices, hd]

theorem extra_sameTask {e : Extra} (he : e.IsManner) (h : SameTask a a') :
    ∃ b', obey a' [] e.flag e.value = .ok b' ∧ SameTask a b' := by
  obtain ⟨f, value, htakes, _⟩ := e
  have hnone (hf : f.takesValue = false) : value = none :=
    Option.not_isSome_iff_eq_none.mp (by simp [← htakes, hf])
  rcases he with hf | hf | ⟨hf, text, htext, d, hd, hduration⟩ <;> obtain rfl := hf
  · obtain rfl := hnone rfl
    exact ⟨_, rfl, { h with }⟩
  · obtain rfl := hnone rfl
    exact ⟨_, rfl, { h with verbose := fun _ => rfl }⟩
  · obtain rfl : value = some text := htext
    exact ⟨_, assign_delay hd, { h with delay := .inr ⟨d, rfl, hduration.isNegative_eq⟩ }⟩

theorem overlooks_manner : Overlooks SameTask Extra.IsManner where
  refl a := ⟨rfl, rfl, rfl, rfl, rfl, id, .inl rfl⟩
  file text h := { h with files := by rw [h.files] }
  switch := switch_sameTask
  assign := assign_sameTask
  extra := extra_sameTask

/-! ## The session -/

/-- The level of the log is that of the option, or else of the environment. -/
def chosenLevel (env : Environment) (args : Arguments) : Except SettingError Log.Level :=
  if args.verbose then .ok Log.Level.debug else env.chooseLogLevel Log.Level.warning

variable {env : Environment} {args args' : Arguments} {registry : Log.Registry} {auditor : Auditor}

theorem prepare_eq_ok_iff : prepare env args = .ok (registry, auditor) ↔
    ∃ level, chosenLevel env args = .ok level
      ∧ ∃ reader, env.chooseReader args.reader = .ok reader
      ∧ ∃ delay, env.chooseDelay args.delay = .ok delay
      ∧ (Log.Site.setup {} Log.libraryLogger (.number level)).1.registry = registry
      ∧ ⟨reader, delay, args.progress⟩ = auditor := by
  unfold prepare chosenLevel Auditor.configure
  cases args.verbose
  all_goals
    simp only [Bool.false_eq_true, ↓reduceIte, bind_eq_ok_iff, pure, Except.pure, Except.ok.injEq,
      Prod.mk.injEq]
    constructor
    · rintro ⟨level, hlevel, _, ⟨reader, hreader, delay, hdelay, hauditor⟩, hregistry, rfl⟩
      exact ⟨level, hlevel, reader, hreader, delay, hdelay, hregistry, hauditor⟩
    · rintro ⟨level, hlevel, reader, hreader, delay, hdelay, hregistry, hauditor⟩
      exact ⟨level, hlevel, _, ⟨reader, hreader, delay, hdelay, hauditor⟩, hregistry, rfl⟩

/-- A session that could be prepared still can be, with an auditor that uses the same reader. -/
theorem prepare_sameTask (h : SameTask args args')
    (hconfig : prepare env args = .ok (registry, auditor)) :
    ∃ registry' auditor', prepare env args' = .ok (registry', auditor')
      ∧ auditor'.reader = auditor.reader := by
  obtain ⟨level, hlevel, reader, hreader, delay, hdelay, -, rfl⟩ := prepare_eq_ok_iff.mp hconfig
  have hlevel' : ∃ level', chosenLevel env args' = .ok level' := by
    unfold chosenLevel at hlevel ⊢
    by_cases hverbose : args'.verbose
    · exact ⟨_, if_pos hverbose⟩
    · rw [if_neg fun h' => hverbose (h.verbose h')] at hlevel
      exact ⟨level, by rw [if_neg hverbose, hlevel]⟩
  have hdelay' : ∃ delay', env.chooseDelay args'.delay = .ok delay' := by
    rcases h.delay with heq | ⟨d, hd, hnegative⟩
    · exact ⟨delay, heq ▸ hdelay⟩
    · refine ⟨d, ?_⟩
      rw [Option.mem_def.mp hd]
      exact bind_eq_ok_iff.mpr ⟨d, rfl, by simp [hnegative]⟩
  obtain ⟨level', hlevel'⟩ := hlevel'
  obtain ⟨delay', hdelay'⟩ := hdelay'
  exact ⟨_, _, prepare_eq_ok_iff.mpr
    ⟨level', hlevel', reader, h.reader ▸ hreader, delay', hdelay', rfl, rfl⟩, rfl⟩

/-- An auditor with the same reader finds the same. -/
theorem result_auditOne_eq (w : World) {a a' : Auditor} (h : a'.reader = a.reader) (input : Bytes)
    (name : String) : (auditOne w a' input name).result = (auditOne w a input name).result := by
  have haudit (markup : Source) (source : Option String) :
      (a'.audit w.readers markup source).result = (a.audit w.readers markup source).result := by
    have hasked : a'.asked = a.asked := by simp only [Auditor.asked, h]
    rcases hread : (Document.read w.readers markup a.asked).result with e | d
    · rw [(a.result_audit_of_error source hread).1,
        (a'.result_audit_of_error source (hasked ▸ hread)).1]
    · rw [(a.result_audit_of_ok source hread).1, (a'.result_audit_of_ok source (hasked ▸ hread)).1]
  unfold auditOne Auditor.auditFile
  dsimp only
  split
  · exact haudit _ _
  · cases w.tree.read (Path.ofText name) with
    | error e => rfl
    | ok content => exact haudit _ _

theorem snd_auditAll_eq (w : World) {a a' : Auditor} (h : a'.reader = a.reader)
    (registry registry' : Log.Registry) :
    ∀ (input : Bytes) (names : List String),
      (auditAll w registry' a' input names).2 = (auditAll w registry a input names).2
  | _, [] => rfl
  | input, name :: names => by
    have hhead := result_auditOne_eq w h input name
    have htail := snd_auditAll_eq w h registry registry'
      (if name = inputName then [] else input) names
    simp only [auditAll, hhead]
    split
    · rw [htail]
    · split
      · rw [htail]
      · rfl

/-- The effect is on the console, or takes time. -/
def Effect.IsAside : Effect → Prop
  | .tells _ | .waits _ => True
  | _ => False

/-- A session has ended in the same way, with the same output and the same files. -/
structure Outcome.SameResult (o o' : Outcome) : Prop where
  ending : o'.ending = o.ending
  output : o'.output = o.output
  saved : o'.saved = o.saved

theorem sameResult_append {before before' : List Effect} (h : ∀ e ∈ before, e.IsAside)
    (h' : ∀ e ∈ before', e.IsAside) (more : List Effect) (ending : Ending) :
    Outcome.SameResult ⟨before ++ more, ending⟩ ⟨before' ++ more, ending⟩ := by
  have hnone {β : Type} (g : Effect → Option β) (hg : ∀ e : Effect, e.IsAside → g e = none) :
      (before' ++ more).filterMap g = (before ++ more).filterMap g := by
    rw [List.filterMap_append, List.filterMap_append,
      List.filterMap_eq_nil_iff.mpr fun e he => hg e (h e he),
      List.filterMap_eq_nil_iff.mpr fun e he => hg e (h' e he)]
  refine ⟨rfl, congrArg String.join (hnone _ ?_), hnone _ ?_⟩
  · rintro (_ | _ | _ | _) he <;> first | rfl | exact he.elim
  · rintro (_ | _ | _ | _) he <;> first | rfl | exact he.elim

/-- The same task done in another manner has the same result. -/
theorem session_sameTask {w : World} (h : SameTask args args')
    (hconfig : prepare w.environment args = .ok (registry, auditor)) :
    (session w args).SameResult (session w args') := by
  obtain ⟨registry', auditor', hconfig', hreader⟩ := prepare_sameTask h hconfig
  have haudits := snd_auditAll_eq w hreader registry registry' w.input args.files
  have haside (registry : Log.Registry) (a : Auditor) :
      ∀ e ∈ (auditAll w registry a w.input args.files).1, e.IsAside :=
    forall_mem_auditAll w a registry (fun _ => trivial) (fun _ => trivial) _ _
  have happend := sameResult_append (haside registry auditor) (haside registry' auditor')
  simp only [session, hconfig, hconfig', h.files, h.output, h.format, h.failOn, haudits]
  cases (auditAll w registry auditor w.input args.files).2 with
  | error e => simpa using happend [] (.broken e)
  | ok entries =>
    dsimp only
    cases deliver w.tree args.output (args.format.render entries ++ "\n") with
    | error e => simpa using happend [] (.broken (.file e))
    | ok more => exact happend more _

/-! ## Runs -/

/-- The run comes to its end, and with the same result. -/
def EndsLike (o : Outcome) (w : World) (argv : List String) : Prop :=
  ∃ o', run w argv = .done o' ∧ o.SameResult o'

/-- Options about the manner of a session never change its result, wherever they are added. Of the
places where they may be added, the front is always one, and the end is one unless a separator
comes before it. -/
theorem endsLike_of_added {w : World} {argv : List String}
    (hargs : Arguments.parse argv = .ok args)
    (hconfig : prepare w.environment args = .ok (registry, auditor)) :
    ∃ o, run w argv = .done o
      ∧ (∀ argv' args', Added Extra.IsManner argv argv' → Arguments.parse argv' = .ok args' →
          EndsLike o w argv')
      ∧ ∀ es : List Extra, (∀ e ∈ es, e.IsManner) →
          EndsLike o w (es.flatMap Extra.spelled ++ argv)
          ∧ ("--" ∉ argv → EndsLike o w (argv ++ es.flatMap Extra.spelled)) := by
  have hadded : ∀ argv' args', Added Extra.IsManner argv argv' →
      Arguments.parse argv' = .ok args' → EndsLike (session w args) w argv' := by
    intro argv' args' hadded hargs'
    have htask := related_of_added overlooks_manner hargs hadded hargs'
    exact ⟨session w args', by rw [run, hargs'], session_sameTask htask hconfig⟩
  refine ⟨session w args, by rw [run, hargs], hadded, fun es hes => ⟨?_, fun hargv => ?_⟩⟩
  · obtain ⟨args', hargs'⟩ := accepted_front overlooks_manner hes hargs
    exact hadded _ args' (.front hes) hargs'
  · obtain ⟨args', hargs'⟩ := accepted_back overlooks_manner hes hargs hargv
    exact hadded _ args' (.back hes hargv) hargs'

/-- A report in a file, with a delay that the environment asks for and one that an option asks
for. -/
theorem endsLike_half_second :
    let w : World := {
      readers := Markup.readers
      environment := { delay := some "0.25" }
      tree := { files := [(["a.html"], "<p>Hi".toUTF8.toList)] } }
    ∃ o, run w ["a.html", "-o", "report"] = .done o
      ∧ EndsLike o w ["--progress", "a.html", "--delay", "0.5", "-o", "report"]
      ∧ EndsLike o w ["--delay", "0.5", "--verbose", "a.html", "-o", "report"]
      ∧ EndsLike o w ["a.html", "-o", "report", "--delay", "0.5", "--verbose"] := by
  intro w
  let args : Arguments := { files := ["a.html"], output := some "report" }
  have hargs : Arguments.parse ["a.html", "-o", "report"] = .ok args := by decide +kernel
  have hdelay : w.environment.chooseDelay none = .ok (.finite false 4503599627370496 (-54)) := by
    decide +kernel
  have hhalf : Double.parse? "0.5" = some (.finite false 4503599627370496 (-53)) := by
    decide +kernel
  obtain ⟨registry, auditor, hconfig⟩ :
      ∃ registry auditor, prepare w.environment args = .ok (registry, auditor) :=
    ⟨_, _, prepare_eq_ok_iff.mpr ⟨_, rfl, _, rfl, _, hdelay, rfl, rfl⟩⟩
  obtain ⟨o, ho, hadded, hplaces⟩ := endsLike_of_added hargs hconfig
  let progress : Extra := ⟨.progress, none, rfl, by simp⟩
  let verbose : Extra := ⟨.verbose, none, rfl, by simp⟩
  let delay : Extra := ⟨.delay, some "0.5", rfl, by
    rintro _ ⟨⟩
    decide +kernel⟩
  have hmanner : delay.IsManner := .inr (.inr ⟨rfl, _, rfl, _, hhalf, rfl⟩)
  have hes : ∀ e ∈ [delay, verbose], e.IsManner :=
    List.forall_mem_cons.mpr ⟨hmanner, List.forall_mem_singleton.mpr (.inr (.inl rfl))⟩
  refine ⟨o, ho, ?_, (hplaces _ hes).1, (hplaces _ hes).2 (by decide)⟩
  have hargs' : Arguments.parse ["--progress", "a.html", "--delay", "0.5", "-o", "report"] = .ok {
      files := ["a.html"]
      output := some "report"
      progress := true
      delay := some (.finite false 4503599627370496 (-53)) } := by decide +kernel
  exact hadded _ _ (.extra (e := progress) (.inl rfl)
    (.argument (by decide) (.extra (e := delay) hmanner (.same _)))) hargs'

end PageAudit.CommandLine
