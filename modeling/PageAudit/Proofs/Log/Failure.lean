import Mathlib.Tactic.ByContra
import PageAudit.Proofs.Log.Setups

/-!
# Setups that fail

A setup that asks for an unknown level fails before anything has changed. A first setup whose file
cannot be opened fails too late for that: the logger has its level by then, and a handler for the
console, and with a handler it counts as set up. Only this way of failing leaves a trace
(`Site.isAtomic_iff`), and no later setup can make up for it: whatever it names, the logger never
gets its file (`Site.logger_setUpAll_of_consoleOnly`).
-/

namespace PageAudit.Log

/-- A logger that writes to the console only. -/
def Logger.consoleOnly (level : Level) : Logger :=
  ⟨level, [⟨.console, level⟩]⟩

namespace Site

variable {s : Site} {c : Call} {name file : String} {level : Level}

/-- The file of this name cannot be opened. -/
def Unopenable (s : Site) (file : String) : Prop :=
  ∃ cause, s.tree.target (Path.ofText file).collapsed = .error cause

instance : Decidable (s.Unopenable file) :=
  match h : s.tree.target (Path.ofText file).collapsed with
  | .error cause => isTrue ⟨cause, h⟩
  | .ok _ => isFalse fun ⟨_, hcause⟩ => nomatch h.symm.trans hcause

/-- The call is the first for its logger, asks for a level that there is, and names a file that
cannot be opened. -/
structure FailsLate (s : Site) (c : Call) : Prop where
  level : c.setting?.isSome
  first : (s.registry.logger c.logger).handlers = []
  file : c.file ≠ ""
  unopenable : s.Unopenable c.file

instance : Decidable (s.FailsLate c) :=
  decidable_of_iff (c.setting?.isSome ∧ (s.registry.logger c.logger).handlers = [] ∧ c.file ≠ ""
      ∧ s.Unopenable c.file)
    ⟨fun ⟨hlevel, hfirst, hfile, hunopenable⟩ => ⟨hlevel, hfirst, hfile, hunopenable⟩,
      fun h => ⟨h.level, h.first, h.file, h.unopenable⟩⟩

/-- If the call fails, all loggers are as they were, and every later call ends in the same way and
leaves the same loggers behind as it would without the call. -/
def IsAtomic (s : Site) (c : Call) : Prop :=
  ∀ e, (s.setUp c).2 = .error e →
    (∀ n, (s.setUp c).1.registry.logger n = s.registry.logger n)
      ∧ ∀ later : Call, ((s.setUp c).1.setUp later).2 = (s.setUp later).2
        ∧ ∀ n, ((s.setUp c).1.setUp later).1.registry.logger n
            = (s.setUp later).1.registry.logger n

/-! ## One call -/

theorem attachFile_of_unopenable (h : s.Unopenable file) (name : String) (level : Level) :
    ∃ e, s.attachFile name level file = .error e := by
  obtain ⟨cause, hcause⟩ := h
  unfold attachFile
  simp only [hcause]
  exact ⟨_, rfl⟩

theorem attachFile_of_not_unopenable (h : ¬ s.Unopenable file) (name : String) (level : Level) :
    ∃ s', s.attachFile name level file = .ok s' := by
  unfold attachFile
  dsimp only
  split
  · rename_i cause hcause
    exact absurd ⟨cause, hcause⟩ h
  · exact ⟨_, rfl⟩

/-- The console is attached before the file is opened. -/
theorem setupAt_of_unopenable (hfirst : (s.registry.logger name).handlers = []) (hfile : file ≠ "")
    (hunopenable : s.Unopenable file) (level : Level) :
    ∃ e, s.setupAt name level file
      = ((s.relevel name level).attach name ⟨.console, level⟩, .error (.unopened e)) := by
  have hunopenable' :
      ((s.relevel name level).attach name ⟨.console, level⟩).Unopenable file := hunopenable
  obtain ⟨e, he⟩ := attachFile_of_unopenable hunopenable' name level
  refine ⟨e, ?_⟩
  unfold setupAt
  have hnamed : file.isEmpty = false := by simpa using hfile
  simp [hfirst, hnamed, he]

theorem setupAt_ne_unopened (h : file = "" ∨ ¬ s.Unopenable file) (e : FileTree.Error) :
    (s.setupAt name level file).2 ≠ .error (.unopened e) := by
  unfold setupAt
  dsimp only
  split
  · simp
  · rcases h with rfl | h
    · simp
    · have h' : ¬ ((s.relevel name level).attach name ⟨.console, level⟩).Unopenable file := h
      obtain ⟨s', hs'⟩ := attachFile_of_not_unopenable h' name level
      rw [hs']
      split <;> simp

theorem file_of_setting? {setting : Setting} (h : c.setting? = some setting) :
    setting.file = c.file := by
  unfold Call.setting? at h
  split at h
  · cases h
    rfl
  · cases h

section Late

variable {setting : Setting} (hsetting : c.setting? = some setting)
include hsetting

theorem setUp_of_failsLate (h : s.FailsLate c) :
    ∃ e, s.setUp c = ((s.relevel c.logger setting.level).attach c.logger
      ⟨.console, setting.level⟩, .error (.unopened e)) := by
  rw [s.setUp_of_setting?_some hsetting, file_of_setting? hsetting]
  exact setupAt_of_unopenable h.first h.file h.unopenable setting.level

theorem logger_setUp_of_failsLate (h : s.FailsLate c) :
    (s.setUp c).1.registry.logger c.logger = .consoleOnly setting.level := by
  obtain ⟨e, he⟩ := setUp_of_failsLate hsetting h
  rw [he, logger_attach_self, logger_relevel_self, h.first]
  rfl

theorem setUp_eq_ok_of_not_failsLate (h : ¬ s.FailsLate c) : (s.setUp c).2 = .ok () := by
  rw [s.setUp_of_setting?_some hsetting, file_of_setting? hsetting]
  by_cases hfirst : (s.registry.logger c.logger).handlers = []
  · refine (setupAt_first hfirst (setupAt_ne_unopened ?_)).1
    by_contra hnot
    obtain ⟨hfile, hunopenable⟩ := not_or.1 hnot
    exact h ⟨by simp [hsetting], hfirst, hfile, not_not.1 hunopenable⟩
  · rw [setupAt_later hfirst]

end Late

/-! ## Afterwards -/

/-- Once a logger has a handler for the console and none else, it gets no other. -/
theorem logger_setUp_of_consoleOnly {level : Level}
    (h : s.registry.logger name = .consoleOnly level) (c : Call) :
    (s.setUp c).1.registry.logger name
      = .consoleOnly (((given name [c]).getLast?.map (·.level)).getD level) := by
  by_cases hname : c.logger = name
  · subst hname
    cases hsetting : c.setting? with
    | none =>
      obtain ⟨_, -, hsetUp⟩ := s.setUp_of_setting?_none hsetting
      simp [hsetUp, h, given, hsetting]
    | some setting =>
      have hlater : (s.registry.logger c.logger).handlers ≠ [] := by simp [h, Logger.consoleOnly]
      rw [s.setUp_of_setting?_some hsetting, setupAt_later hlater, logger_relevel_self, h]
      simp [given, hsetting, Logger.consoleOnly]
  · rw [logger_setUp_of_ne (Ne.symm hname), h]
    simp [given, hname]

theorem logger_setUpAll_of_consoleOnly :
    ∀ (calls : List Call) {s : Site} {level : Level},
      s.registry.logger name = .consoleOnly level →
      (s.setUpAll calls).registry.logger name
        = .consoleOnly (((given name calls).getLast?.map (·.level)).getD level)
  | [], s, level, h => by simpa [setUpAll, given] using h
  | c :: calls, s, level, h => by
    have hrest := logger_setUpAll_of_consoleOnly calls (logger_setUp_of_consoleOnly h c)
    have hgiven : given name (c :: calls) = given name [c] ++ given name calls := by
      simp only [given, ← List.filterMap_append, List.singleton_append]
    rw [hgiven, List.getLast?_append]
    simp only [setUpAll, List.foldl_cons] at hrest ⊢
    rw [hrest]
    cases (given name calls).getLast? <;> simp

/-- A call fails without a trace unless it fails late. A level that there is not is found out
before anything has changed. A call that fails late leaves its logger with the console alone, and
after whatever other calls it has the console alone, at the latest level. -/
theorem isAtomic_iff (s : Site) (c : Call) :
    (s.IsAtomic c ↔ ¬ s.FailsLate c)
      ∧ (c.setting? = none →
          ∃ word, c.level = .name word ∧ s.setUp c = (s, .error (.unknownLevel word)))
      ∧ (s.FailsLate c → ∀ setting ∈ c.setting?,
          (∃ e, (s.setUp c).2 = .error (.unopened e))
          ∧ (s.setUp c).1.tree = s.tree
          ∧ (∀ n ≠ c.logger, (s.setUp c).1.registry.logger n = s.registry.logger n)
          ∧ ∀ calls, ((s.setUp c).1.setUpAll calls).registry.logger c.logger
              = .consoleOnly (((given c.logger calls).getLast?.map (·.level)).getD
                  setting.level)) := by
  refine ⟨⟨fun hatomic hlate => ?_, fun hnot e he => ?_⟩, s.setUp_of_setting?_none,
    fun hlate setting hsetting => ?_⟩
  · obtain ⟨setting, hsetting⟩ := Option.isSome_iff_exists.1 hlate.level
    obtain ⟨e, he⟩ := setUp_of_failsLate hsetting hlate
    have hsame := (hatomic (.unopened e) (by rw [he])).1 c.logger
    rw [logger_setUp_of_failsLate hsetting hlate] at hsame
    have hfirst := hlate.first
    rw [← hsame] at hfirst
    simp [Logger.consoleOnly] at hfirst
  · cases hsetting : c.setting? with
    | none =>
      obtain ⟨_, -, hsetUp⟩ := s.setUp_of_setting?_none hsetting
      rw [hsetUp]
      exact ⟨fun _ => rfl, fun _ => ⟨rfl, fun _ => rfl⟩⟩
    | some setting =>
      rw [setUp_eq_ok_of_not_failsLate hsetting hnot] at he
      cases he
  · obtain ⟨e, he⟩ := setUp_of_failsLate hsetting hlate
    refine ⟨⟨e, by rw [he]⟩, by rw [he]; rfl, fun n hn => logger_setUp_of_ne hn, fun calls => ?_⟩
    exact logger_setUpAll_of_consoleOnly calls (logger_setUp_of_failsLate hsetting hlate)

/-- The first call names a file in a folder that is not there. The second, which would attach a file
to a logger that is new, changes nothing any more. -/
theorem not_isAtomic_missing_folder :
    let bad : Call := ⟨"app", .number 20, "/no/such/app.log"⟩
    let good : Call := ⟨"app", .number 20, "app.log"⟩
    ¬ IsAtomic {} bad
      ∧ (setUpAll {} [good]).registry.logger "app"
        = ⟨20, [⟨.console, 20⟩, ⟨.file ["app.log"], 20⟩]⟩
      ∧ (setUpAll {} [bad, good]).registry.logger "app" = ⟨20, [⟨.console, 20⟩]⟩ := by
  intro bad good
  have hlate : FailsLate {} bad := by decide +kernel
  obtain ⟨e, he⟩ := setUp_of_failsLate (s := {}) (c := bad) rfl hlate
  have hchanged : (setUp {} bad).1.registry.logger "app" ≠ (Registry.logger {} "app") := by
    decide +kernel
  refine ⟨fun h => hchanged ((h (.unopened e) (by rw [he])).1 "app"), ?_, ?_⟩ <;> decide +kernel

end Site

end PageAudit.Log
