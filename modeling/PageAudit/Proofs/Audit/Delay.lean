import PageAudit.Proofs.Audit.Progress
import PageAudit.Proofs.Number.Reading

/-!
# The delay of an auditor

A delay is asked for by the caller or else by the environment. A text that gives no number is
refused, and so is a number less than zero. No other number is: if no finite number is as great as
the delay asked for, there is an auditor all the same, and its first audit is already to wait for
what is no duration. Only then (`Auditor.waitsOrRefuses_configure_iff`). Nothing is said here of
durations that are too great for the system to sleep for.
-/

namespace PageAudit

open Audit Double

/-- The delay asked for by the caller or else by the environment, as a number. -/
inductive Environment.Asks (env : Environment) : Option Double → Double → Prop where
  | caller (d : Double) : Asks env (some d) d
  | text {text : String} {v : Numeral} (htext : env.delay = some text) (hv : Spells text v) :
      Asks env none v.nearest
  | absent (h : env.delay = none) : Asks env none zero

/-- No finite number is as great as the delay asked for. -/
def Environment.AsksUnbounded (env : Environment) : Option Double → Prop
  | some d => d.IsUnbounded
  | none => ∃ text ∈ env.delay, ∃ v, Spells text v ∧ v.IsUnbounded

/-- Whatever requests are served, only for durations is to be waited, if perhaps for longer than the
system can sleep. As there is no waiting but for the delay, this is a property of the delay alone
(`keepsPace_iff`). -/
def Auditor.KeepsPace (a : Auditor) : Prop :=
  ∀ readers requests d, .slept d ∈ (a.serveAll readers {} requests).1.notes → d.IsDuration

/-- The settings are refused, or there is an auditor whose delay is a duration, and no audit to come
waits for anything else. -/
def WaitsOrRefuses : Except SettingError Auditor → Prop
  | .error _ => True
  | .ok a => a.delay.IsDuration ∧ a.KeepsPace

/-! ## The choice of the delay -/

namespace Environment

variable {env : Environment} {asked : Option Double} {d : Double} {text : String}
  {e : SettingError}

theorem readDelay_of_asks (h : env.Asks none d) : env.readDelay = .ok d := by
  unfold readDelay
  cases h with
  | text htext hv => simp only [htext, parse?_eq_some_iff.2 ⟨_, hv, rfl⟩]
  | absent h => rw [h]

theorem readDelay_of_unreadable (htext : env.delay = some text) (hnone : ∀ v, ¬ Spells text v) :
    env.readDelay = .error (.unreadableDelay text) := by
  have hparse : parse? text = none := by
    rw [Option.eq_none_iff_forall_ne_some]
    intro d hd
    obtain ⟨v, hv, -⟩ := parse?_eq_some_iff.1 hd
    exact hnone v hv
  unfold readDelay
  simp only [htext, hparse]

/-- A delay is asked for unless the environment is asked for it and has a text that gives no
number. -/
theorem asks_or_unreadable (env : Environment) (asked : Option Double) :
    (∃ d, env.Asks asked d)
      ∨ asked = none ∧ ∃ text, env.delay = some text ∧ ∀ v, ¬ Spells text v := by
  cases asked with
  | some d => exact .inl ⟨d, .caller d⟩
  | none =>
    cases htext : env.delay with
    | none => exact .inl ⟨_, .absent htext⟩
    | some text =>
      by_cases hspells : ∃ v, Spells text v
      · obtain ⟨v, hv⟩ := hspells
        exact .inl ⟨_, .text htext hv⟩
      · exact .inr ⟨rfl, text, rfl, not_exists.1 hspells⟩

theorem chooseDelay_of_asks (h : env.Asks asked d) :
    env.chooseDelay asked = if d.isNegative then .error (.negativeDelay d) else .ok d := by
  cases asked with
  | some d' =>
    cases h
    rfl
  | none =>
    unfold chooseDelay
    rw [readDelay_of_asks h]
    rfl

theorem chooseDelay_of_unreadable (htext : env.delay = some text) (hnone : ∀ v, ¬ Spells text v) :
    env.chooseDelay none = .error (.unreadableDelay text) := by
  unfold chooseDelay
  rw [readDelay_of_unreadable htext hnone]
  rfl

theorem chooseDelay_eq_ok_iff :
    env.chooseDelay asked = .ok d ↔ env.Asks asked d ∧ d.isNegative = false := by
  constructor
  · intro h
    rcases env.asks_or_unreadable asked with ⟨d', hasks⟩ | ⟨rfl, text, htext, hnone⟩
    · rw [chooseDelay_of_asks hasks] at h
      split_ifs at h with hnegative
      cases h
      exact ⟨hasks, by simpa using hnegative⟩
    · rw [chooseDelay_of_unreadable htext hnone] at h
      cases h
  · rintro ⟨hasks, hnegative⟩
    rw [chooseDelay_of_asks hasks, hnegative]
    rfl

/-- What is refused is less than zero or, in the environment, no number. -/
theorem chooseDelay_eq_error_iff :
    env.chooseDelay asked = .error e
      ↔ (asked = none ∧ ∃ text, env.delay = some text ∧ (∀ v, ¬ Spells text v)
          ∧ e = .unreadableDelay text)
        ∨ ∃ d, env.Asks asked d ∧ d.isNegative ∧ e = .negativeDelay d := by
  constructor
  · intro h
    rcases env.asks_or_unreadable asked with ⟨d, hasks⟩ | ⟨rfl, text, htext, hnone⟩
    · rw [chooseDelay_of_asks hasks] at h
      split_ifs at h with hnegative
      cases h
      exact .inr ⟨d, hasks, hnegative, rfl⟩
    · rw [chooseDelay_of_unreadable htext hnone] at h
      cases h
      exact .inl ⟨rfl, text, htext, hnone, rfl⟩
  · rintro (⟨rfl, text, htext, hnone, rfl⟩ | ⟨d, hasks, hnegative, rfl⟩)
    · exact chooseDelay_of_unreadable htext hnone
    · rw [chooseDelay_of_asks hasks, if_pos hnegative]

theorem asksUnbounded_iff : env.AsksUnbounded asked ↔ ∃ d, env.Asks asked d ∧ d.IsUnbounded := by
  cases asked with
  | some d => exact ⟨fun h => ⟨d, .caller d, h⟩, fun ⟨_, hasks, h⟩ => by cases hasks; exact h⟩
  | none =>
    constructor
    · rintro ⟨text, htext, v, hv, h⟩
      exact ⟨_, .text htext hv, Numeral.isUnbounded_nearest.2 h⟩
    · rintro ⟨_, _ | ⟨htext, hv⟩ | _, h⟩
      · exact ⟨_, htext, _, hv, Numeral.isUnbounded_nearest.1 h⟩
      · exact h.elim

end Environment

/-! ## Waiting -/

namespace Auditor

variable (a : Auditor)

/-- A wait is as long as the delay. -/
def Keeps : Note → Prop
  | .slept d => d = a.delay
  | _ => True

theorem keeps_begin (s : Step) : ∀ n ∈ a.begin s, a.Keeps n := by
  unfold begin
  intro n hn
  split at hn <;> split at hn <;> simp at hn <;> rcases hn with rfl | rfl | rfl <;> trivial

theorem keeps_finish (s : Step) : ∀ n ∈ a.finish s, a.Keeps n := by
  unfold finish
  split <;> simp [Keeps]

theorem keeps_whole (s : Step) : ∀ n ∈ a.whole s, a.Keeps n :=
  List.forall_mem_append.2 ⟨a.keeps_begin s, a.keeps_finish s⟩

theorem keeps_checkAll (page : Page) :
    ∀ cs : List Category, ∀ n ∈ (a.checkAll page cs).2, a.Keeps n
  | [] => by simp [checkAll]
  | c :: cs => List.forall_mem_append.2 ⟨a.keeps_whole (.checking c), keeps_checkAll page cs⟩

theorem keeps_auditDocument (d : Document) (source : Option String) :
    ∀ n ∈ (a.auditDocument d source).2, a.Keeps n := by
  refine List.forall_mem_append.2 ⟨List.forall_mem_append.2 ⟨?_, a.keeps_whole .compiling⟩, ?_⟩
  · exact a.keeps_checkAll d.page Category.all
  · simp [info, Keeps]

theorem keeps_audit (readers : Readers) (markup : Source) (source : Option String) :
    ∀ n ∈ (a.audit readers markup source).notes, a.Keeps n := by
  have hread (records : List Log.Record) :
      ∀ n ∈ a.begin .reading ++ records.map .logged, a.Keeps n := by
    refine List.forall_mem_append.2 ⟨a.keeps_begin .reading, ?_⟩
    simp [Keeps]
  unfold audit
  dsimp only
  split
  · exact hread _
  · exact List.forall_mem_append.2 ⟨List.forall_mem_append.2 ⟨hread _, a.keeps_finish .reading⟩,
      a.keeps_auditDocument _ source⟩

theorem keeps_serveAll (readers : Readers) :
    ∀ (requests : List Request) (l : Ledger), (∀ n ∈ l.notes, a.Keeps n) →
      ∀ n ∈ (a.serveAll readers l requests).1.notes, a.Keeps n
  | [], _, h => h
  | r :: requests, l, h => by
    have hserve : ∀ n ∈ (a.serve readers l r).1.notes, a.Keeps n := by
      rw [serve, Ledger.notes_enter]
      exact List.forall_mem_append.2 ⟨h, a.keeps_audit readers r.markup r.source⟩
    exact keeps_serveAll readers requests _ hserve

theorem begin_subset_audit (readers : Readers) (markup : Source) (source : Option String) :
    a.begin .reading ⊆ (a.audit readers markup source).notes := by
  unfold audit
  dsimp only
  split <;> intro n hn <;> simp [hn]

/-- A delay that is no duration is to be waited for as soon as there is something to audit. -/
theorem keepsPace_iff : a.KeepsPace ↔ a.delay.IsDuration := by
  constructor
  · intro h
    by_contra hdelay
    have hzero : a.delay.isZero = false := by
      cases hd : a.delay with
      | finite => simp_all [IsDuration, isZero, isNegative]
      | infinite => rfl
      | notANumber => rfl
    have hslept : .slept a.delay ∈ a.begin .reading := by simp [begin, hzero]
    have hmem := a.begin_subset_audit Markup.readers (.text "") none hslept
    refine hdelay (h Markup.readers [⟨.text "", none⟩] a.delay ?_)
    simpa only [serveAll, serve, Ledger.notes_enter] using List.mem_append_right _ hmem
  · intro h readers requests d hd
    exact a.keeps_serveAll readers requests {} (by simp) _ hd ▸ h

section Configure

variable {env : Environment} {reader : Option String} {delay : Option Double} {announces : Bool}

theorem configure_eq_ok_iff {a : Auditor} :
    configure env reader delay announces = .ok a
      ↔ env.chooseReader reader = .ok a.reader ∧ env.chooseDelay delay = .ok a.delay
        ∧ announces = a.announces := by
  obtain ⟨reader', delay', announces'⟩ := a
  unfold configure
  cases env.chooseReader reader with
  | error => simp [bind, Except.bind]
  | ok =>
    cases env.chooseDelay delay with
    | error => simp [bind, Except.bind]
    | ok => simp [bind, Except.bind, pure, Except.pure]

/-- The reader is chosen first. -/
theorem configure_eq_error_iff {e : SettingError} :
    configure env reader delay announces = .error e
      ↔ env.chooseReader reader = .error e
        ∨ (∃ r, env.chooseReader reader = .ok r) ∧ env.chooseDelay delay = .error e := by
  unfold configure
  cases env.chooseReader reader with
  | error => simp [bind, Except.bind]
  | ok =>
    cases env.chooseDelay delay with
    | error => simp [bind, Except.bind]
    | ok => simp [bind, Except.bind, pure, Except.pure]

/-- What is asked for is refused, or is a duration, unless no finite number is as great. The
delay of an auditor is the one asked for, and its audits wait for nothing but durations if and only
if that is one. -/
theorem waitsOrRefuses_configure_iff (env : Environment) (reader : Option String)
    (delay : Option Double) (announces : Bool) :
    (WaitsOrRefuses (configure env reader delay announces)
        ↔ (∃ e, env.chooseReader reader = .error e) ∨ ¬ env.AsksUnbounded delay)
      ∧ ∀ a, configure env reader delay announces = .ok a →
          env.Asks delay a.delay ∧ (a.KeepsPace ↔ a.delay.IsDuration) := by
  constructor
  · rw [Environment.asksUnbounded_iff]
    have hchosen {d : Double} (hasks : env.Asks delay d) (hd : d.IsUnbounded) :
        env.chooseDelay delay = .ok d :=
      Environment.chooseDelay_eq_ok_iff.2 ⟨hasks, hd.isNegative_eq⟩
    cases hconfigure : configure env reader delay announces with
    | error e =>
      refine iff_of_true trivial ?_
      rcases configure_eq_error_iff.1 hconfigure with hreader | ⟨-, hdelay⟩
      · exact .inl ⟨e, hreader⟩
      · right
        rintro ⟨d, hasks, hd⟩
        exact nomatch hdelay.symm.trans (hchosen hasks hd)
    | ok a =>
      obtain ⟨hreader, hdelay, -⟩ := configure_eq_ok_iff.1 hconfigure
      obtain ⟨hasks, hnegative⟩ := Environment.chooseDelay_eq_ok_iff.1 hdelay
      rw [or_iff_right (by simp [hreader])]
      constructor
      · rintro ⟨hduration, -⟩ ⟨d, hasks', hd⟩
        obtain rfl := Except.ok.inj (hdelay.symm.trans (hchosen hasks' hd))
        exact (isDuration_iff.1 hduration).2 hd
      · intro hbounded
        have hduration := isDuration_iff.2 ⟨hnegative, fun h => hbounded ⟨_, hasks, h⟩⟩
        exact ⟨hduration, a.keepsPace_iff.2 hduration⟩
  · intro a ha
    obtain ⟨-, hdelay, -⟩ := configure_eq_ok_iff.1 ha
    exact ⟨(Environment.chooseDelay_eq_ok_iff.1 hdelay).1, a.keepsPace_iff⟩

/-- A word in the environment that gives no number at all. -/
theorem not_waitsOrRefuses_nan :
    ¬ WaitsOrRefuses (configure { delay := some "nan" } none none) := by
  have hconfigure : configure { delay := some "nan" } none none
      = .ok { delay := .notANumber } := by decide +kernel
  rw [hconfigure]
  exact fun h => h.1

end Configure

end Auditor

end PageAudit
