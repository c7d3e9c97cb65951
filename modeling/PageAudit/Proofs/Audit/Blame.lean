import PageAudit.Proofs.Audit.Delay
import PageAudit.Proofs.Document.Failures

/-!
# What is to blame for settings that are refused

An error about the settings stems from a place where something is asked for that cannot be had: a
reader that there is not, a delay that is no number, or one less than zero. The place is an argument
of the caller, or a variable of the environment that no argument stands before. The settings are
refused whenever there is such a place, and the error is of such a place and blames it, but for a
slip (`Auditor.blamesFairly_configure_iff`): a delay that the environment gives and that is less
than zero is blamed on the argument.
-/

namespace PageAudit

open Double

/-- The reader of this name is asked for at the place, by the caller or else by the environment. -/
inductive Environment.Names (env : Environment) (asked : Option String) :
    String → String → Prop where
  | caller {name : String} (h : nonEmpty asked = some name) : Names env asked "parser" name
  | environment {name : String} (hasked : nonEmpty asked = none)
      (h : nonEmpty env.reader = some name) : Names env asked readerName name

/-- The error is about what is asked for at the place. -/
inductive StemsFrom (env : Environment) (reader : Option String) (delay : Option Double) :
    SettingError → String → Prop where
  | reader {place name : String} (h : env.Names reader place name)
      (hunknown : name ∉ Reader.labels) :
      StemsFrom env reader delay (.unknownReader place name) place
  | delay {d : Double} (hdelay : delay = some d) (hnegative : d.isNegative) :
      StemsFrom env reader delay (.negativeDelay d) "step_delay"
  | unreadable {text : String} (hdelay : delay = none) (htext : env.delay = some text)
      (hnone : ∀ v, ¬ Spells text v) :
      StemsFrom env reader delay (.unreadableDelay text) Environment.delayName
  | negative {text : String} {v : Numeral} (hdelay : delay = none) (htext : env.delay = some text)
      (hv : Spells text v) (hnegative : v.nearest.isNegative) :
      StemsFrom env reader delay (.negativeDelay v.nearest) Environment.delayName

/-- If the settings are refused, the place that is blamed is the one that the error stems from. -/
def BlamesFairly (env : Environment) (reader : Option String) (delay : Option Double)
    (configured : Except SettingError Auditor) : Prop :=
  ∀ e, configured = .error e → StemsFrom env reader delay e e.setting

namespace Environment

/-- With nothing wrong about the reader, the delay of the environment is used and is less than
zero. -/
structure IsNegative (env : Environment) (reader : Option String) (delay : Option Double) :
    Prop where
  reader : ∃ r, env.chooseReader reader = .ok r
  unasked : delay = none
  negative : ∃ text ∈ env.delay, ∃ v, Spells text v ∧ v.nearest.isNegative

/-- The environments differ in nothing but what an argument stands before. -/
structure SameBehind (env env' : Environment) (reader : Option String) (delay : Option Double) :
    Prop where
  reader : nonEmpty reader = none → env'.reader = env.reader
  delay : delay = none → env'.delay = env.delay

end Environment

variable {env : Environment} {reader : Option String} {delay : Option Double} {announces : Bool}
  {e : SettingError} {place : String}

namespace Environment

theorem chooseReader_of_names {name : String} (h : env.Names reader place name) :
    env.chooseReader reader = (namedReader place name).map some := by
  unfold chooseReader
  cases h with
  | caller h => rw [h]
  | environment hasked h => rw [hasked, h]

theorem exists_names_of_error (h : env.chooseReader reader = .error e) :
    ∃ place name, env.Names reader place name := by
  unfold chooseReader at h
  split at h
  · rename_i name hname
    exact ⟨_, name, .caller hname⟩
  · rename_i hasked
    split at h
    · rename_i name hname
      exact ⟨_, name, .environment hasked hname⟩
    · cases h

theorem namedReader_eq_error_iff {name : String} :
    (namedReader place name).map some = .error e
      ↔ name ∉ Reader.labels ∧ e = .unknownReader place name := by
  rw [← Reader.ofLabel?_eq_none_iff]
  unfold namedReader
  cases Reader.ofLabel? name <;> simp [Except.map, eq_comm]

theorem chooseReader_eq_error_iff :
    env.chooseReader reader = .error e
      ↔ ∃ place name, env.Names reader place name ∧ name ∉ Reader.labels
        ∧ e = .unknownReader place name := by
  constructor
  · intro h
    obtain ⟨place, name, hnames⟩ := exists_names_of_error h
    rw [chooseReader_of_names hnames, namedReader_eq_error_iff] at h
    exact ⟨place, name, hnames, h⟩
  · rintro ⟨place, name, hnames, h⟩
    rw [chooseReader_of_names hnames]
    exact namedReader_eq_error_iff.2 h

end Environment

namespace Auditor

theorem exists_configure_eq_error (h : StemsFrom env reader delay e place) (announces : Bool) :
    ∃ e, configure env reader delay announces = .error e := by
  have hrefused (hdelay : env.chooseDelay delay = .error e) :
      ∃ e, configure env reader delay announces = .error e := by
    cases hreader : env.chooseReader reader with
    | error e' => exact ⟨e', configure_eq_error_iff.2 (.inl hreader)⟩
    | ok r => exact ⟨e, configure_eq_error_iff.2 (.inr ⟨⟨r, hreader⟩, hdelay⟩)⟩
  cases h with
  | reader hnames hunknown =>
    have hreader := Environment.chooseReader_eq_error_iff.2 ⟨_, _, hnames, hunknown, rfl⟩
    exact ⟨_, configure_eq_error_iff.2 (.inl hreader)⟩
  | delay hasked hnegative =>
    subst hasked
    exact hrefused (Environment.chooseDelay_eq_error_iff.2 (.inr ⟨_, .caller _, hnegative, rfl⟩))
  | unreadable hasked htext hnone =>
    exact hrefused (Environment.chooseDelay_eq_error_iff.2
      (.inl ⟨hasked, _, htext, hnone, rfl⟩))
  | negative hasked htext hv hnegative =>
    subst hasked
    exact hrefused (Environment.chooseDelay_eq_error_iff.2
      (.inr ⟨_, .text htext hv, hnegative, rfl⟩))

theorem stemsFrom_of_configure_eq_error (h : configure env reader delay announces = .error e) :
    (StemsFrom env reader delay e e.setting ∧ ¬ env.IsNegative reader delay)
      ∨ (env.IsNegative reader delay ∧ StemsFrom env reader delay e Environment.delayName
        ∧ ∃ d, e = .negativeDelay d) := by
  rcases configure_eq_error_iff.1 h with hreader | ⟨hreader, hdelay⟩
  · left
    refine ⟨?_, fun ⟨⟨r, hr⟩, _, _⟩ => nomatch hreader.symm.trans hr⟩
    obtain ⟨place, name, hnames, hunknown, rfl⟩ :=
      Environment.chooseReader_eq_error_iff.1 hreader
    exact .reader hnames hunknown
  · rcases Environment.chooseDelay_eq_error_iff.1 hdelay with
      ⟨hasked, text, htext, hnone, rfl⟩ | ⟨d, hasks, hnegative, rfl⟩
    · left
      refine ⟨.unreadable hasked htext hnone, ?_⟩
      rintro ⟨-, -, text', htext', v, hv, -⟩
      cases htext.symm.trans htext'
      exact hnone v hv
    · cases hasks with
      | caller => exact .inl ⟨.delay rfl hnegative, fun h => nomatch h.unasked⟩
      | text htext hv =>
        right
        exact ⟨⟨hreader, rfl, _, htext, _, hv, hnegative⟩, .negative rfl htext hv hnegative,
          _, rfl⟩
      | absent => exact absurd hnegative (by decide)

/-- An error about a delay less than zero blames the argument, even where there is none. -/
theorem not_stemsFrom_setting {d : Double} (hdelay : delay = none) :
    ¬ StemsFrom env reader delay (.negativeDelay d) (SettingError.negativeDelay d).setting := by
  intro h
  generalize hplace : (SettingError.negativeDelay d).setting = place at h
  cases h with
  | delay hasked => exact nomatch hdelay.symm.trans hasked
  | negative => exact absurd hplace (by simp [SettingError.setting, Environment.delayName])

theorem configure_of_sameBehind {env' : Environment} (h : env.SameBehind env' reader delay) :
    configure env' reader delay announces = configure env reader delay announces := by
  have hreader : env'.chooseReader reader = env.chooseReader reader := by
    unfold Environment.chooseReader
    cases hasked : nonEmpty reader with
    | none => rw [h.reader hasked]
    | some name => rfl
  have hdelay : env'.chooseDelay delay = env.chooseDelay delay := by
    cases hasked : delay with
    | none => simp only [Environment.chooseDelay, Environment.readDelay, h.delay hasked]
    | some d => rfl
  rw [configure, configure, hreader, hdelay]

/-- A delay less than zero that the environment gives is refused as what it is. -/
theorem exists_configure_eq_negativeDelay (h : env.IsNegative reader delay) (announces : Bool) :
    ∃ d, configure env reader delay announces = .error (.negativeDelay d)
      ∧ StemsFrom env reader delay (.negativeDelay d) Environment.delayName := by
  obtain ⟨text, htext, v, hv, hsign⟩ := h.negative
  have hstems : StemsFrom env reader delay _ _ := .negative h.unasked htext hv hsign
  obtain ⟨e, he⟩ := exists_configure_eq_error hstems announces
  rcases stemsFrom_of_configure_eq_error he with ⟨-, hnot⟩ | ⟨-, hstems, d, rfl⟩
  · exact absurd h hnot
  · exact ⟨d, he, hstems⟩

/-- Errors are fair but for a delay less than zero that only the environment gives. That one is
refused as it should be, though the argument is blamed. The settings are refused if and only if
there is a place to blame, and what an argument stands before does not matter at all. -/
theorem blamesFairly_configure_iff (env : Environment) (reader : Option String)
    (delay : Option Double) (announces : Bool) :
    (BlamesFairly env reader delay (configure env reader delay announces)
        ↔ ¬ env.IsNegative reader delay)
      ∧ (env.IsNegative reader delay → ∃ d,
          configure env reader delay announces = .error (.negativeDelay d)
            ∧ StemsFrom env reader delay (.negativeDelay d) Environment.delayName)
      ∧ ((∃ e, configure env reader delay announces = .error e)
          ↔ ∃ e place, StemsFrom env reader delay e place)
      ∧ ∀ env', env.SameBehind env' reader delay →
          configure env' reader delay announces = configure env reader delay announces := by
  refine ⟨⟨fun hfair h => ?_, fun h e he => ?_⟩,
    fun h => exists_configure_eq_negativeDelay h announces, ⟨?_, ?_⟩, ?_⟩
  · obtain ⟨d, hd, -⟩ := exists_configure_eq_negativeDelay h announces
    exact not_stemsFrom_setting h.unasked (hfair _ hd)
  · rcases stemsFrom_of_configure_eq_error he with ⟨hstems, -⟩ | ⟨hnot, -⟩
    · exact hstems
    · exact absurd hnot h
  · rintro ⟨e, he⟩
    rcases stemsFrom_of_configure_eq_error he with ⟨hstems, -⟩ | ⟨-, hstems, -⟩
    · exact ⟨e, _, hstems⟩
    · exact ⟨e, _, hstems⟩
  · rintro ⟨e, place, hstems⟩
    exact exists_configure_eq_error hstems announces
  · exact fun env' h => configure_of_sameBehind h

/-- A delay less than zero in the environment, and no arguments. -/
theorem not_blamesFairly_minus_one :
    ¬ BlamesFairly { delay := some "-1" } none none
      (configure { delay := some "-1" } none none) := by
  have hconfigure : configure { delay := some "-1" } none none
      = .error (.negativeDelay (.finite true 4503599627370496 (-52))) := by decide +kernel
  exact fun h => not_stemsFrom_setting rfl (h _ hconfigure)

end Auditor

end PageAudit
