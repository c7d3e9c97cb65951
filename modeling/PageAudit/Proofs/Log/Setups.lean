import PageAudit.Log.Setup
import PageAudit.Proofs.File.Put

/-!
# Setups in a row

What becomes of a logger is told by the setups that succeed for it, and by no others (`given`): the
first of them decides whether it writes to a file, and the latest on its level. A setup changes no
logger but its own (`Site.logger_setUp_of_ne`). One more setup keeps this (`Site.follows_setUp`),
and so it holds after any number of them (`Site.follows_setUpAll`).

The loggers of the parts of the library hang on the logger of the library (`lineage_partLogger`).
While that one alone is set up, no other has handlers, so a record of a part is written on the
console once or not at all (`Registry.count_console_sinks`). Both facts together describe every
moment of a sequence of setups (`Site.setUpAll_isSetUp`).
-/

namespace PageAudit.Log

namespace Registry

variable (r : Registry) (name : String) (l : Logger)

@[simp]
theorem logger_put_self : (r.put name l).logger name = l := by
  rw [logger, put, lookup_put_self, Option.getD_some]

theorem logger_put_of_ne {n : String} (hn : n ≠ name) : (r.put name l).logger n = r.logger n := by
  rw [logger, put, lookup_put_of_ne _ _ hn, logger]

end Registry

/-! ## Calls -/

/-- The sink is a file. -/
def Sink.isFile : Sink → Bool
  | console => false
  | file _ => true

/-- A logger that has been set up: one of its handlers is for the console, and one more for a file
if a file was named; the level is the same everywhere. -/
structure Logger.IsSetUp (l : Logger) (file : String) (level : Level) : Prop where
  console : l.handlers.countP (·.sink = .console) = 1
  files : l.handlers.countP (·.sink.isFile) = if file.isEmpty then 0 else 1
  level_eq : l.level = level
  handler_level : ∀ h ∈ l.handlers, h.level = level

/-- A call to set up a logger. Without a file it names the empty one. -/
structure Call where
  name : String
  level : LevelChoice
  file : String := ""
  deriving DecidableEq, Repr

/-- What a logger is to be set up with. -/
structure Setting where
  level : Level
  file : String
  deriving DecidableEq, Repr

namespace Call

/-- The logger that the call is about. -/
def logger (c : Call) : String :=
  canonicalName c.name

/-- What the call gives its logger; nothing, if there is no level of the name that it asks for. -/
def setting? (c : Call) : Option Setting :=
  match c.level.level with
  | .ok level => some ⟨level, c.file⟩
  | .error _ => none

end Call

/-- What a logger is given by the calls that are about it, in order. -/
def given (name : String) (calls : List Call) : List Setting :=
  calls.filterMap fun c => if c.logger = name then c.setting? else none

theorem given_eq_nil {name : String} {calls : List Call} (h : ∀ c ∈ calls, c.logger ≠ name) :
    given name calls = [] :=
  List.filterMap_eq_nil_iff.mpr fun c hc => if_neg (h c hc)

theorem given_append_singleton (name : String) (calls : List Call) (c : Call) :
    given name (calls ++ [c])
      = given name calls ++ (if c.logger = name then c.setting? else none).toList := by
  simp only [given, List.filterMap_append, List.filterMap_cons, List.filterMap_nil]
  cases (if c.logger = name then c.setting? else none) <;> rfl

/-- Wherever a logger has been given something, it is set up accordingly, and elsewhere it is as it
was at the start. -/
def Follows (start r : Registry) (calls : List Call) : Prop :=
  ∀ name, (given name calls = [] → r.logger name = start.logger name)
    ∧ ∀ first ∈ (given name calls).head?, ∀ latest ∈ (given name calls).getLast?,
        (r.logger name).IsSetUp first.file latest.level

namespace Logger.IsSetUp

variable {l : Logger} {file : String} {level : Level}

theorem handlers_ne_nil (h : l.IsSetUp file level) : l.handlers ≠ [] := by
  intro hnil
  have hcount := h.console
  rw [hnil] at hcount
  cases hcount

/-- Another level for all handlers is all that a later setup brings. -/
theorem relevel (h : l.IsSetUp file level) (level' : Level) :
    IsSetUp ⟨level', l.handlers.map ({ · with level := level' })⟩ file level' where
  console := by simpa [List.countP_map, Function.comp_def] using h.console
  files := by simpa [List.countP_map, Function.comp_def] using h.files
  level_eq := rfl
  handler_level := by simp

end Logger.IsSetUp

namespace Site

variable (s : Site)

/-- Carries out a call. -/
def setUp (c : Call) : Site × Except Setup.Error Unit :=
  s.setup c.name c.level c.file

/-- The loggers and the files after calls in a row. -/
def setUpAll (calls : List Call) : Site :=
  calls.foldl (fun s c => (s.setUp c).1) s

/-- No call fails because its file cannot be opened. -/
def Opens : Site → List Call → Prop
  | _, [] => True
  | s, c :: calls => (∀ e, (s.setUp c).2 ≠ .error (.unopened e)) ∧ Opens (s.setUp c).1 calls

instance : ∀ result : Except Setup.Error Unit, Decidable (∀ e, result ≠ .error (.unopened e))
  | .ok _ => isTrue nofun
  | .error (.unknownLevel _) => isTrue nofun
  | .error (.unopened e) => isFalse fun h => h e rfl

instance : ∀ (s : Site) (calls : List Call), Decidable (s.Opens calls)
  | _, [] => isTrue trivial
  | s, c :: calls =>
    have := instDecidableOpens (s.setUp c).1 calls
    inferInstanceAs (Decidable (_ ∧ _))

/-- Without a level the call fails and nothing changes. -/
theorem setUp_of_setting?_none {c : Call} (h : c.setting? = none) :
    ∃ name, c.level = .name name ∧ s.setUp c = (s, .error (.unknownLevel name)) := by
  obtain ⟨_, level | name, _⟩ := c
  · cases h
  · refine ⟨name, rfl, ?_⟩
    cases hlevel : Level.ofName? name with
    | some level => simp [Call.setting?, LevelChoice.level, hlevel] at h
    | none => simp only [setUp, setup, LevelChoice.level, hlevel]

theorem setUp_of_setting?_some {c : Call} {setting : Setting} (h : c.setting? = some setting) :
    s.setUp c = s.setupAt c.logger setting.level setting.file := by
  unfold Call.setting? at h
  split at h
  · rename_i level hlevel
    cases h
    simp only [setUp, setup, hlevel, Call.logger]
  · cases h

section SetupAt

variable {s} {name n file : String} {level : Level}

theorem logger_relevel_self :
    (s.relevel name level).registry.logger name
      = ⟨level, (s.registry.logger name).handlers.map ({ · with level := level })⟩ :=
  Registry.logger_put_self _ _ _

theorem logger_relevel_of_ne (hn : n ≠ name) :
    (s.relevel name level).registry.logger n = s.registry.logger n :=
  Registry.logger_put_of_ne _ _ _ hn

theorem logger_attach_self (h : Handler) :
    (s.attach name h).registry.logger name
      = ⟨(s.registry.logger name).level, (s.registry.logger name).handlers ++ [h]⟩ :=
  Registry.logger_put_self _ _ _

theorem logger_attach_of_ne (hn : n ≠ name) (h : Handler) :
    (s.attach name h).registry.logger n = s.registry.logger n :=
  Registry.logger_put_of_ne _ _ _ hn

/-- A file that can be opened is attached, and only its logger changes. -/
theorem attachFile_eq_ok {s' : Site} (h : s.attachFile name level file = .ok s') :
    ∃ place, s'.registry = (s.attach name ⟨.file place, level⟩).registry := by
  unfold attachFile at h
  dsimp only at h
  split at h
  · cases h
  · cases h
    exact ⟨_, rfl⟩

/-- Whether the file can be opened or not, only the logger that is set up changes. -/
theorem logger_setupAt_of_ne (hn : n ≠ name) :
    (s.setupAt name level file).1.registry.logger n = s.registry.logger n := by
  have hconsole : ((s.relevel name level).attach name ⟨.console, level⟩).registry.logger n
      = s.registry.logger n := by
    rw [logger_attach_of_ne hn, logger_relevel_of_ne hn]
  unfold setupAt
  dsimp only
  split
  · exact logger_relevel_of_ne hn
  · split
    · exact hconsole
    · split
      · rename_i s' hs'
        obtain ⟨place, hregistry⟩ := attachFile_eq_ok hs'
        rw [hregistry, logger_attach_of_ne hn, hconsole]
      · exact hconsole

/-- A logger without handlers is set up. -/
theorem setupAt_first (hfirst : (s.registry.logger name).handlers = [])
    (hopens : ∀ e, (s.setupAt name level file).2 ≠ .error (.unopened e)) :
    (s.setupAt name level file).2 = .ok ()
      ∧ ((s.setupAt name level file).1.registry.logger name).IsSetUp file level := by
  have hconsole : ((s.relevel name level).attach name ⟨.console, level⟩).registry.logger name
      = ⟨level, [⟨.console, level⟩]⟩ := by
    rw [logger_attach_self, logger_relevel_self, hfirst]
    rfl
  unfold setupAt at hopens ⊢
  simp only [hfirst, List.isEmpty_nil, Bool.not_true, Bool.false_eq_true, ↓reduceIte]
    at hopens ⊢
  by_cases hfile : file.isEmpty
  · rw [if_pos hfile]
    refine ⟨rfl, ?_⟩
    rw [hconsole]
    exact ⟨rfl, by simp [hfile, Sink.isFile], rfl, by simp⟩
  · rw [if_neg hfile] at hopens ⊢
    split
    · rename_i s' hs'
      obtain ⟨place, hregistry⟩ := attachFile_eq_ok hs'
      refine ⟨rfl, ?_⟩
      rw [hregistry, logger_attach_self, hconsole]
      exact ⟨by simp, by simp [hfile, Sink.isFile], rfl, by simp⟩
    · rename_i e he
      rw [he] at hopens
      exact absurd rfl (hopens e)

/-- A logger with handlers is given another level. -/
theorem setupAt_later (hlater : (s.registry.logger name).handlers ≠ []) :
    s.setupAt name level file = (s.relevel name level, .ok ()) := by
  simp [setupAt, hlater]

end SetupAt

variable {s} {c : Call}

/-- Whether a call succeeds or fails, it is about its own logger. -/
theorem logger_setUp_of_ne {n : String} (hn : n ≠ c.logger) :
    (s.setUp c).1.registry.logger n = s.registry.logger n := by
  cases hsetting : c.setting? with
  | none =>
    obtain ⟨_, -, hsetUp⟩ := s.setUp_of_setting?_none hsetting
    rw [hsetUp]
  | some setting => rw [s.setUp_of_setting?_some hsetting, logger_setupAt_of_ne hn]

/-- Nothing but its level and its file can make a call fail. -/
theorem setUp_eq_ok (hlevel : c.setting?.isSome)
    (hopens : ∀ e, (s.setUp c).2 ≠ .error (.unopened e)) : (s.setUp c).2 = .ok () := by
  obtain ⟨setting, hsetting⟩ := Option.isSome_iff_exists.mp hlevel
  rw [s.setUp_of_setting?_some hsetting] at hopens ⊢
  by_cases hfirst : (s.registry.logger c.logger).handlers = []
  · exact (setupAt_first hfirst hopens).1
  · rw [setupAt_later hfirst]

/-! ## Sequences of calls -/

variable {start : Registry}

/-- One more call, which may fail because of its level but not because of its file. -/
theorem follows_setUp (hbare : ∀ name, (start.logger name).handlers = []) {calls : List Call}
    (h : Follows start s.registry calls)
    (hopens : ∀ e, (s.setUp c).2 ≠ .error (.unopened e)) :
    Follows start (s.setUp c).1.registry (calls ++ [c]) := by
  intro name
  rw [given_append_singleton]
  by_cases hname : c.logger = name
  · subst hname
    rw [if_pos rfl]
    cases hsetting : c.setting? with
    | none =>
      obtain ⟨_, -, hsetUp⟩ := s.setUp_of_setting?_none hsetting
      simpa only [hsetUp, Option.toList_none, List.append_nil] using h c.logger
    | some setting =>
      rw [s.setUp_of_setting?_some hsetting] at hopens ⊢
      rw [Option.toList_some]
      refine ⟨by simp, fun first hhead latest hlast => ?_⟩
      obtain rfl : setting = latest := by simpa using hlast
      cases hgiven : given c.logger calls with
      | nil =>
        obtain rfl : setting = first := by simpa [hgiven] using hhead
        have hsame := (h c.logger).1 hgiven
        exact (setupAt_first (hsame ▸ hbare c.logger) hopens).2
      | cons first' rest =>
        obtain rfl : first' = first := by simpa [hgiven] using hhead
        obtain ⟨before, hbefore⟩ : ∃ before, (given c.logger calls).getLast? = some before := by
          simp [hgiven, List.getLast?_cons]
        have hsetUp := (h c.logger).2 first' (by simp [hgiven]) before hbefore
        rw [setupAt_later hsetUp.handlers_ne_nil, logger_relevel_self]
        exact hsetUp.relevel setting.level
  · rw [if_neg hname, Option.toList_none, List.append_nil, logger_setUp_of_ne (Ne.symm hname)]
    exact h name

theorem opens_append : ∀ {s : Site} {as bs : List Call},
    s.Opens (as ++ bs) ↔ s.Opens as ∧ (s.setUpAll as).Opens bs
  | s, [], bs => by simp [Opens, setUpAll]
  | s, c :: as, bs => by
    simp only [List.cons_append, Opens, opens_append, setUpAll, List.foldl_cons, and_assoc]

theorem follows_setUpAll (hbare : ∀ name, (start.logger name).handlers = []) :
    ∀ (calls : List Call) {before : List Call} {s : Site}, Follows start s.registry before →
      s.Opens calls → Follows start (s.setUpAll calls).registry (before ++ calls)
  | [], before, s, h, _ => by simpa [setUpAll] using h
  | c :: calls, before, s, h, hopens => by
    have hstep := follows_setUp hbare h hopens.1
    have hrest := follows_setUpAll hbare calls hstep hopens.2
    simpa [setUpAll] using hrest

end Site

/-! ## The loggers of the parts -/

/-- What can name a part: a text that does not begin with a dot. -/
def IsPart (part : String) : Prop :=
  part.toList.head? ≠ some '.'

instance : DecidablePred IsPart :=
  fun part => inferInstanceAs (Decidable (part.toList.head? ≠ some '.'))

theorem ancestorNames_append : ∀ (before : List Char) {xs : List Char}, '.' ∉ xs →
    ∀ ys, ancestorNames before (xs ++ ys) = ancestorNames (xs.reverse ++ before) ys
  | _, [], _, _ => rfl
  | before, x :: xs, h, ys => by
    obtain ⟨hx, hxs⟩ : '.' ≠ x ∧ '.' ∉ xs := by simpa using h
    simp [ancestorNames, Ne.symm hx, ancestorNames_append (x :: before) hxs ys]

/-- An ancestor has the beginning of the name for its name. -/
theorem eq_of_mem_ancestorNames {name : String} :
    ∀ {before s : List Char}, name ∈ ancestorNames before s →
      ∃ more, name = .ofList (before.reverse ++ more)
  | _, [], h => by simp [ancestorNames] at h
  | before, c :: s, h => by
    have hrest (h : name ∈ ancestorNames (c :: before) s) :
        ∃ more, name = .ofList (before.reverse ++ more) := by
      obtain ⟨more, rfl⟩ := eq_of_mem_ancestorNames h
      exact ⟨c :: more, by simp⟩
    simp only [ancestorNames] at h
    split at h
    · rcases List.mem_append.mp h with h | h
      · exact hrest h
      · exact ⟨[], by simpa using h⟩
    · exact hrest h

theorem toList_partLogger (part : String) :
    (partLogger part).toList = libraryLogger.toList ++ '.' :: part.toList := by
  simp [partLogger]

theorem partLogger_ne_libraryLogger (part : String) : partLogger part ≠ libraryLogger := by
  intro h
  have hlength := congrArg (·.toList.length) h
  simp [toList_partLogger] at hlength

theorem partLogger_ne_rootName (part : String) : partLogger part ≠ rootName := by
  intro h
  have hlength := congrArg (·.toList.length) h
  simp [toList_partLogger, libraryLogger, rootName] at hlength

/-- Above the logger of a part there may be those of other parts; then come that of the library and
the root. -/
theorem lineage_partLogger {part : String} (hpart : IsPart part) :
    ∃ names, lineage (partLogger part) = names ++ [libraryLogger, rootName]
      ∧ ∀ name ∈ names, ∃ other, name = partLogger other := by
  let dotted := '.' :: libraryLogger.toList.reverse
  refine ⟨partLogger part :: ancestorNames dotted part.toList, ?_, ?_⟩
  · have hnames : ancestorNames [] (partLogger part).toList
        = ancestorNames dotted part.toList ++ [libraryLogger] := by
      have hundotted : '.' ∉ libraryLogger.toList := by decide
      have hnonempty : libraryLogger.toList.reverse.isEmpty = false := by decide
      -- no dot is next to the one behind the library's name, so that one counts
      have hnext : part.toList.takeWhile (· == '.') = [] := by
        rw [IsPart] at hpart
        cases hlist : part.toList with
        | nil => rfl
        | cons c s => exact List.takeWhile_cons_of_neg (by simpa [hlist] using hpart)
      rw [toList_partLogger, ancestorNames_append _ hundotted]
      simp [ancestorNames, hnonempty, hnext, dotted]
    rw [lineage, if_neg (partLogger_ne_rootName part), hnames]
    simp
  · intro name hname
    rcases List.mem_cons.mp hname with rfl | hname
    · exact ⟨part, rfl⟩
    · obtain ⟨more, rfl⟩ := eq_of_mem_ancestorNames hname
      exact ⟨.ofList more, String.toList_injective (by simp [toList_partLogger, dotted])⟩

namespace Registry

variable {r : Registry}

/-- No logger but that of the library has a handler, and the loggers of the parts have no levels of
their own. -/
structure IsLibraryOnly (r : Registry) : Prop where
  handlers : ∀ name ≠ libraryLogger, (r.logger name).handlers = []
  level : ∀ part, (r.logger (partLogger part)).level = Level.notSet

theorem effectiveLevel_partLogger (h : r.IsLibraryOnly)
    (hlevel : (r.logger libraryLogger).level ≠ Level.notSet) {part : String} (hpart : IsPart part) :
    r.effectiveLevel (partLogger part) = (r.logger libraryLogger).level := by
  obtain ⟨names, hlineage, hnames⟩ := lineage_partLogger hpart
  have hnone : (names.map fun n => (r.logger n).level).find? (· != Level.notSet) = none := by
    rw [List.find?_eq_none]
    intro level hlevel
    obtain ⟨name, hname, rfl⟩ := List.mem_map.mp hlevel
    obtain ⟨other, rfl⟩ := hnames name hname
    simp [h.level other]
  simp [effectiveLevel, hlineage, List.find?_append, hnone, hlevel]

theorem sinks_partLogger (h : r.IsLibraryOnly)
    (hlevel : 0 < (r.logger libraryLogger).level) {part : String} (hpart : IsPart part)
    (message : String) (level : Level) :
    r.sinks ⟨level, partLogger part, message⟩
      = if (r.logger libraryLogger).level ≤ level then
          ((r.logger libraryLogger).handlers.filter (·.level ≤ level)).map (·.sink)
        else [] := by
  obtain ⟨names, hlineage, hnames⟩ := lineage_partLogger hpart
  have hset : (r.logger libraryLogger).level ≠ Level.notSet := Int.ne_of_gt hlevel
  have hnone : (names.flatMap fun name =>
      ((r.logger name).handlers.filter (·.level ≤ level)).map (·.sink)) = [] := by
    rw [List.flatMap_eq_nil_iff]
    intro name hname
    obtain ⟨other, rfl⟩ := hnames name hname
    simp [h.handlers _ (partLogger_ne_libraryLogger other)]
  have hroot : (r.logger rootName).handlers = [] := h.handlers rootName (by decide)
  have haccepts : r.accepts ⟨level, partLogger part, message⟩
      = decide ((r.logger libraryLogger).level ≤ level) := by
    simp only [accepts, effectiveLevel_partLogger h hset hpart, Bool.and_eq_right_iff_imp,
      decide_eq_true_eq]
    exact Int.lt_of_lt_of_le hlevel
  simp [sinks, haccepts, hlineage, hnone, hroot]

/-- Of the handlers of a logger that is set up, all take a record, or none. -/
theorem count_console_sinks (h : r.IsLibraryOnly) {file : String} {lowest : Level}
    (hlibrary : (r.logger libraryLogger).IsSetUp file lowest) (hlowest : 0 < lowest)
    {part : String} (hpart : IsPart part) (message : String) (level : Level) :
    (r.sinks ⟨level, partLogger part, message⟩).count .console
      = if lowest ≤ level then 1 else 0 := by
  rw [sinks_partLogger h (hlibrary.level_eq.symm ▸ hlowest) hpart, hlibrary.level_eq]
  split
  · rename_i hle
    have hall : (r.logger libraryLogger).handlers.filter (·.level ≤ level)
        = (r.logger libraryLogger).handlers := by
      rw [List.filter_eq_self]
      intro handler hhandler
      simpa [hlibrary.handler_level handler hhandler] using hle
    rw [hall, List.count, List.countP_map, ← hlibrary.console]
    exact List.countP_congr fun handler _ => by simp
  · rfl

theorem consoleText_eq (record : Record) :
    r.consoleText record
      = String.join (List.replicate ((r.sinks record).count .console) record.line) := by
  rw [consoleText, List.map_const', ← List.countP_eq_length_filter, List.count]
  congr 2

/-- Nothing has been set up, and the loggers of the parts have no levels of their own. -/
structure IsFresh (r : Registry) : Prop where
  handlers : ∀ name, (r.logger name).handlers = []
  level : ∀ part, (r.logger (partLogger part)).level = Level.notSet

theorem isFresh_default : IsFresh {} where
  handlers name := by
    by_cases hname : name = rootName
    · subst hname
      rfl
    · have hbeq : (name == rootName) = false := beq_eq_false_iff_ne.mpr hname
      simp [logger, List.lookup_cons, hbeq]
  level part := by
    have hbeq : (partLogger part == rootName) = false :=
      beq_eq_false_iff_ne.mpr (partLogger_ne_rootName part)
    simp [logger, List.lookup_cons, hbeq]

/-- While only the logger of the library is given anything, the others are as they were. -/
theorem IsFresh.isLibraryOnly {start : Registry} (h : start.IsFresh) {calls : List Call}
    (hfollows : Follows start r calls) (honly : ∀ name ≠ libraryLogger, given name calls = []) :
    r.IsLibraryOnly where
  handlers name hname := by
    rw [(hfollows name).1 (honly name hname)]
    exact h.handlers name
  level part := by
    rw [(hfollows _).1 (honly _ (partLogger_ne_libraryLogger part))]
    exact h.level part

end Registry

namespace Site

/-- At every moment of a sequence of setups whose files can be opened, each logger that was ever set
up has one handler for the console, one for a file if its first setup named one, and the level of
its latest setup throughout. The next setup fails if there is no level of the name that it asks for,
and then nothing changes; otherwise it succeeds, and no other logger changes. And if only the logger
of the library was ever set up, a record of one of its parts appears on the console once if its
level is no lower than the latest one, and not at all if it is lower. -/
theorem setUpAll_isSetUp {s : Site} (hfresh : s.registry.IsFresh) {calls : List Call}
    (hopens : s.Opens calls) :
    ∀ before after, calls = before ++ after →
      let now := s.setUpAll before
      Follows s.registry now.registry before
        ∧ (∀ c ∈ after.head?,
            (c.setting? = none →
              ∃ name, c.level = .name name ∧ now.setUp c = (now, .error (.unknownLevel name)))
            ∧ (c.setting?.isSome → (now.setUp c).2 = .ok ())
            ∧ ∀ name ≠ c.logger, (now.setUp c).1.registry.logger name = now.registry.logger name)
        ∧ ((∀ name ≠ libraryLogger, given name before = []) →
            ∀ latest ∈ (given libraryLogger before).getLast?, 0 < latest.level →
              ∀ part, IsPart part → ∀ message level,
                (now.registry.sinks ⟨level, partLogger part, message⟩).count .console
                    = (if latest.level ≤ level then 1 else 0)
                ∧ (now.log ⟨level, partLogger part, message⟩).2
                    = if latest.level ≤ level then
                        Record.line ⟨level, partLogger part, message⟩
                      else "") := by
  rintro before after rfl
  obtain ⟨hbefore, hafter⟩ := opens_append.mp hopens
  have hfollows : Follows s.registry (s.setUpAll before).registry before := by
    have hstart : Follows s.registry s.registry [] := fun name => ⟨fun _ => rfl, by simp [given]⟩
    exact follows_setUpAll hfresh.handlers before hstart hbefore
  refine ⟨hfollows, fun c hc => ?_, fun honly latest hlatest hlevel => ?_⟩
  · have hnext : ∀ e, ((s.setUpAll before).setUp c).2 ≠ .error (.unopened e) := by
      obtain ⟨rest, rfl⟩ := List.head?_eq_some_iff.mp hc
      exact hafter.1
    exact ⟨(s.setUpAll before).setUp_of_setting?_none, fun hlevel => setUp_eq_ok hlevel hnext,
      fun name hname => logger_setUp_of_ne hname⟩
  · obtain ⟨first, hfirst⟩ : ∃ first, (given libraryLogger before).head? = some first := by
      cases hgiven : given libraryLogger before with
      | nil => simp [hgiven] at hlatest
      | cons first rest => exact ⟨first, rfl⟩
    intro part hpart message level
    have hcount := Registry.count_console_sinks (hfresh.isLibraryOnly hfollows honly)
      ((hfollows libraryLogger).2 first hfirst latest hlatest) hlevel hpart message level
    refine ⟨hcount, ?_⟩
    rw [log, Registry.consoleText_eq, hcount]
    split <;> simp

/-- The first setup names a file, the second asks for a level that there is none of, and the third
only brings a higher level. -/
theorem setUpAll_isSetUp_thrice :
    let calls : List Call := [⟨"static_optimizer", .name "INFO", "audit.log"⟩,
      ⟨"static_optimizer", .name "LOUD", ""⟩, ⟨"static_optimizer", .number 30, "late.log"⟩]
    let site := setUpAll {} calls
    Opens {} calls
      ∧ (site.registry.logger "static_optimizer").IsSetUp "audit.log" 30
      ∧ (site.log ⟨20, partLogger "engine", "SEO: 2 issue(s)"⟩).2 = ""
      ∧ (site.log ⟨30, partLogger "engine", "SEO: 2 issue(s)"⟩).2
        = "1970-01-01 00:00:00 - static_optimizer.engine - WARNING - SEO: 2 issue(s)\n" := by
  intro calls site
  have hopens : Opens {} calls := by decide +kernel
  obtain ⟨hfollows, -, hlog⟩ :=
    setUpAll_isSetUp Registry.isFresh_default hopens calls [] (List.append_nil calls).symm
  have hgiven : given libraryLogger calls = [⟨20, "audit.log"⟩, ⟨30, "late.log"⟩] := by
    decide +kernel
  have hlibrary : ∀ c ∈ calls, c.logger = libraryLogger := by decide +kernel
  have honly : ∀ name ≠ libraryLogger, given name calls = [] := fun name hname =>
    given_eq_nil fun c hc hlogger => hname (hlogger.symm.trans (hlibrary c hc))
  have hlast : (given libraryLogger calls).getLast? = some ⟨30, "late.log"⟩ := by rw [hgiven]; rfl
  have hlog' := hlog honly _ hlast (by decide) "engine" (by decide) "SEO: 2 issue(s)"
  refine ⟨hopens, ?_, (hlog' 20).2, (hlog' 30).2.trans ?_⟩
  · exact (hfollows libraryLogger).2 ⟨20, "audit.log"⟩ (by rw [hgiven]; rfl) _ hlast
  · decide +kernel

end Site

end PageAudit.Log
