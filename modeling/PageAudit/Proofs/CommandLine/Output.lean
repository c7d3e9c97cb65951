import PageAudit.Proofs.CommandLine.Manner
import PageAudit.Proofs.File.Put

/-!
# A report in a file

The option for the output decides on one thing only, which is where the report goes. Words without
it are read in the same way whatever the output is (`Parsing.Reads.withOutput`), so the option can
be given in front of arguments or behind them (`parse_front`, `parse_back`). Up to the report the
session is the same too. If the auditor cannot be set up, there is no report to put anywhere
(`session_of_error`). Otherwise the text that would have been printed becomes the content of the
file (`session_redirects`). The file may be one of the inputs, as all of them have been read by
then.
-/

namespace PageAudit

namespace CommandLine

open Parsing

/-! ## The option for the output -/

/-- Of the options in this word, the last is the one for the output. -/
def Word.setsOutput : Word → Bool
  | .flag f bundled written =>
    match unbundle f bundled written with
    | .ok (_, last, _) => last == .output
    | .error _ => false
  | _ => false

/-- The option for the output is somewhere in the arguments. -/
def setsOutput (argv : List String) : Bool :=
  match Word.ofArguments argv with
  | .ok ws => ws.any Word.setsOutput
  | .error _ => false

/-- The option for the output with the name of a file. A name that looks like an option has to be
written in one word with it. -/
inductive NamesOutput (name : String) : List String → Prop where
  | apart (hname : Word.ofArgument name = .ok (.operand name)) :
      NamesOutput name ["--output", name]
  | joined : NamesOutput name ["--output" ++ "=" ++ name]

/-- No option is spelled with an equals sign. -/
theorem Flag.ofSpelling?_eq_none {text : String} (htext : '=' ∈ text.toList) :
    ofSpelling? text = none := by
  have hplain : ∀ s ∈ spellings, '=' ∉ s.1.toList := by decide +kernel
  rw [ofSpelling?, List.lookup_eq_none_iff]
  intro s hs
  exact bne_iff_ne.mpr fun heq => hplain s hs (heq ▸ htext)

theorem Word.splitValue_append (name value : List Char) (hname : '=' ∉ name) :
    splitValue (name ++ '=' :: value) = (name, some value) := by
  have htake : (name ++ '=' :: value).takeWhile (· != '=') = name := by
    rw [List.takeWhile_append_of_pos fun c hc => by simpa using ne_of_mem_of_not_mem hc hname]
    simp
  simp [splitValue, htake]

/-- An option in one word with its value. -/
theorem Word.ofArgument_joined (f : Flag) (value : String) :
    ofArgument (f.long ++ "=" ++ value) = .ok (.flag f false (some value.toList)) := by
  have hlong : ∃ cs, f.long.toList = '-' :: '-' :: cs ∧ '=' ∉ cs := by
    cases f <;> exact ⟨_, rfl, by decide +kernel⟩
  obtain ⟨cs, hlong, hcs⟩ := hlong
  have htext : (f.long ++ "=" ++ value).toList = '-' :: '-' :: (cs ++ '=' :: value.toList) := by
    simp [hlong]
  have hnone : Flag.ofSpelling? (f.long ++ "=" ++ value) = none :=
    Flag.ofSpelling?_eq_none (by simp [htext])
  have hsome : Flag.ofSpelling? f.long = some f := by cases f <;> decide +kernel
  have hsplit : splitValue ('-' :: '-' :: (cs ++ '=' :: value.toList))
      = ('-' :: '-' :: cs, some value.toList) :=
    splitValue_append ('-' :: '-' :: cs) value.toList (by simpa using hcs)
  rw [← String.ofList_toList (s := f.long ++ "=" ++ value), htext] at hnone
  rw [← String.ofList_toList (s := f.long), hlong] at hsome
  simp only [ofArgument, ofDashed, htext, hnone, hsplit, hsome]

variable {a a' b args : Arguments} {f : Flag} {p q : Parsing} {name : String}
  {argv option : List String} {ws : List Word}

theorem obey_output (a : Arguments) (name : String) :
    obey a [] .output (some name) = .ok { a with output := some name } := by
  simp [obey, assign, Flag.choices, pure, Except.pure, bind, Except.bind]

/-- However the option is written, it does one thing to what has been read before. -/
theorem NamesOutput.reads (h : NamesOutput name option) : "--" ∉ option ∧
    ∃ words, Word.ofArguments option = .ok words ∧ ∀ {p q : Parsing} {rest : List Word},
      Reads { p with arguments := { p.arguments with output := some name }, inFiles := false }
        rest q → Reads p (words ++ rest) q := by
  cases h with
  | apart hname =>
    let e : Extra := ⟨.output, some name, rfl, by rintro _ ⟨⟩; exact hname⟩
    exact ⟨e.not_mem_spelled, e.words, e.ofArguments_spelled,
      fun h => .extra (obey_output _ name) h⟩
  | joined =>
    have hword := Word.ofArgument_joined .output name
    have hdashes : "--output" ++ "=" ++ name ≠ "--" := by
      have hmem : '=' ∈ ("--output" ++ "=" ++ name).toList := by simp
      have hplain : '=' ∉ "--".toList := by decide
      exact fun heq => hplain (heq ▸ hmem)
    refine ⟨by simpa using hdashes.symm, [.flag .output false (some name.toList)], ?_,
      fun h => .flag (takeFlag_eq_ok_iff.mpr
        ⟨[], .output, some name, some name, _, ?_, rfl, obey_output _ name, rfl⟩) h⟩
    · exact (ofArguments_cons hdashes).mpr ⟨_, hword, [], rfl, rfl⟩
    · simp [unbundle, Flag.takesValue]

/-! ## Another output -/

/-- The arguments with another output. -/
def Arguments.withOutput (a : Arguments) (out : Option String) : Arguments :=
  { a with output := out }

/-- What has been read so far, with another output. -/
def Parsing.withOutput (p : Parsing) (out : Option String) : Parsing :=
  { p with arguments := p.arguments.withOutput out }

variable {out : Option String}

theorem switch_withOutput (hb : switch a f = .ok b) :
    switch (a.withOutput out) f = .ok (b.withOutput out) := by
  cases f <;> cases hb <;> rfl

theorem foldlM_switch_withOutput : ∀ {fs : List Flag} {a b : Arguments},
    fs.foldlM switch a = .ok b → fs.foldlM switch (a.withOutput out) = .ok (b.withOutput out)
  | [], _, _, hb => by cases hb; rfl
  | f :: fs, a, b, hb => by
    obtain ⟨c, hc, hb⟩ := bind_eq_ok_iff.mp hb
    exact bind_eq_ok_iff.mpr ⟨_, switch_withOutput hc, foldlM_switch_withOutput hb⟩

theorem assign_withOutput {value : String} (hf : f ≠ .output) (hb : assign a f value = .ok b) :
    assign (a.withOutput out) f value = .ok (b.withOutput out) := by
  obtain ⟨_, hset, rfl, hassign⟩ := exists_sets hb
  rw [hassign]
  cases hset with
  | output => contradiction
  | _ => rfl

theorem obey_withOutput {before : List Flag} {value : Option String} (hf : f ≠ .output)
    (hb : obey a before f value = .ok b) :
    obey (a.withOutput out) before f value = .ok (b.withOutput out) := by
  obtain ⟨c, hc, hb⟩ := bind_eq_ok_iff.mp hb
  refine bind_eq_ok_iff.mpr ⟨_, foldlM_switch_withOutput hc, ?_⟩
  cases value with
  | none => exact switch_withOutput hb
  | some value => exact assign_withOutput hf hb

theorem takeFlag_withOutput {bundled : Bool} {written : Option (List Char)} {rest : List Word}
    {used : Nat} (hf : ¬ (Word.flag f bundled written).setsOutput)
    (hq : p.takeFlag f bundled written rest = .ok (q, used)) :
    (p.withOutput out).takeFlag f bundled written rest = .ok (q.withOutput out, used) := by
  obtain ⟨before, last, attached, value, a, hunbundle, hvalue, ha, rfl⟩ :=
    takeFlag_eq_ok_iff.mp hq
  have hlast : last ≠ .output := by simpa [Word.setsOutput, hunbundle] using hf
  exact takeFlag_eq_ok_iff.mpr
    ⟨before, last, attached, value, _, hunbundle, hvalue, obey_withOutput hlast ha, rfl⟩

/-- Words without the option for the output are read in the same way whatever the output is. -/
theorem Parsing.Reads.withOutput (h : Reads p ws q) (hws : ∀ word ∈ ws, ¬ word.setsOutput)
    (out : Option String) : Reads (p.withOutput out) ws (q.withOutput out) := by
  induction h with
  | done p => exact .done _
  | @operand p q text rest hopen _ ih =>
    refine .operand hopen ?_
    rw [Parsing.withOutput, takeOperand_with_arguments hopen]
    have hrest := ih fun word hword => hws word (List.mem_cons_of_mem _ hword)
    rwa [Parsing.withOutput, takeOperand_eq hopen] at hrest ⊢
  | separator hvanishes _ ih =>
    exact .separator hvanishes (ih fun word hword => hws word (List.mem_cons_of_mem _ hword))
  | flag hflag _ ih =>
    refine .flag (takeFlag_withOutput (hws _ List.mem_cons_self) hflag) (ih fun word hword => ?_)
    exact hws word (List.mem_cons_of_mem _ (List.mem_of_mem_drop hword))

theorem parse_front (hargs : Arguments.parse argv = .ok args) (hargv : ¬ setsOutput argv)
    (hoption : NamesOutput name option) :
    Arguments.parse (option ++ argv) = .ok (args.withOutput (some name)) := by
  obtain ⟨ws, q, hws, hq, hbegun, rfl⟩ := parse_eq_ok_iff.mp hargs
  obtain ⟨hdashes, words, hwords, hreads⟩ := hoption.reads
  have hnone : ∀ word ∈ ws, ¬ word.setsOutput := by simpa [setsOutput, hws] using hargv
  exact parse_eq_ok_iff.mpr ⟨words ++ ws, q.withOutput (some name),
    ofArguments_append hws hdashes hwords, hreads (hq.withOutput hnone _), hbegun, rfl⟩

theorem parse_back (hargs : Arguments.parse argv = .ok args) (hargv : "--" ∉ argv)
    (hoption : NamesOutput name option) :
    Arguments.parse (argv ++ option) = .ok (args.withOutput (some name)) := by
  obtain ⟨ws, q, hws, hq, hbegun, rfl⟩ := parse_eq_ok_iff.mp hargs
  obtain ⟨-, words, hwords, hreads⟩ := hoption.reads
  have hback := hq.append (hreads (.done _))
  rw [List.append_nil] at hback
  exact parse_eq_ok_iff.mpr ⟨ws ++ words, _, ofArguments_append hwords hargv hws, hback, hbegun,
    rfl⟩

/-- Nothing but the option for the output decides on it. -/
theorem output_eq_none (hargs : Arguments.parse argv = .ok args) (hargv : ¬ setsOutput argv) :
    args.output = none := by
  obtain ⟨ws, q, hws, hq, -, rfl⟩ := parse_eq_ok_iff.mp hargs
  have hnone : ∀ word ∈ ws, ¬ word.setsOutput := by simpa [setsOutput, hws] using hargv
  have hsame : q.withOutput none = q := by
    have h := (hq.withOutput hnone none).takeAll_eq
    exact Except.ok.inj (h.symm.trans hq.takeAll_eq)
  exact congrArg (·.arguments.output) hsame.symm

/-! ## The session -/

/-- The files as a session leaves them. -/
def Outcome.leaves (o : Outcome) (tree : FileTree) : FileTree :=
  o.saved.foldl (fun t f => t.put f.1 f.2.toUTF8.toList) tree

/-- Another session ends in the same way, but nothing is on its output. All of what was there is the
content of a file instead, and no other file is written. -/
structure Outcome.Redirects (o o' : Outcome) (tree : FileTree) (place : List String) : Prop where
  ending : o'.ending = o.ending
  output : o'.output = ""
  saved : o'.saved = [(place, o.output)]
  content : (o'.leaves tree).files.lookup place = some o.output.toUTF8.toList

variable {w : World} {o : Outcome} {code : Nat} {place : List String}

/-- A session whose auditor cannot be set up has no report to put anywhere. -/
theorem session_of_error {e : SettingError} (hconfig : prepare w.environment args = .error e)
    (out : Option String) :
    session w (args.withOutput out) = session w args ∧ (session w args).output = ""
      ∧ (session w args).saved = [] := by
  have hconfig' : prepare w.environment (args.withOutput out) = .error e := hconfig
  simp [session, hconfig, hconfig', Outcome.output, Outcome.saved]

/-- A report that is saved and one that is printed, both after effects that are asides. -/
theorem Outcome.redirects_of_isAside {before : List Effect} (h : ∀ e ∈ before, e.IsAside)
    (text note : String) (ending : Ending) (tree : FileTree) (place : List String) :
    Outcome.Redirects ⟨before ++ [.prints text], ending⟩
      ⟨before ++ [.saves place text, .tells note], ending⟩ tree place := by
  have hnothing : ∀ e ∈ ([] : List Effect), e.IsAside := by simp
  have hprinted : Outcome.output ⟨before ++ [.prints text], ending⟩ = text :=
    (sameResult_append h hnothing [.prints text] ending).output.symm
  have hsaves := sameResult_append hnothing h [.saves place text, .tells note] ending
  have hsaved : Outcome.saved ⟨before ++ [.saves place text, .tells note], ending⟩
      = [(place, text)] := hsaves.saved
  refine ⟨rfl, hsaves.output, by rw [hsaved, hprinted], ?_⟩
  rw [leaves, hsaved, hprinted]
  exact tree.lookup_put place _

theorem deliver_some {tree : FileTree} (hname : name ≠ "")
    (htarget : tree.target (Path.ofText name) = .ok place) (text : String) :
    deliver tree (some name) text
      = .ok [.saves place text, .tells s!"\nReport saved to: {name}\n"] := by
  have hsome : nonEmpty (some name) = some name := by simp [nonEmpty, hname]
  simp only [deliver, hsome, htarget]

/-- With a file for the output, the text that would have been printed is saved. -/
theorem session_redirects {prepared : Log.Registry × Auditor}
    (hconfig : prepare w.environment args = .ok prepared) (houtput : args.output = none)
    (hstatus : (session w args).ending = .status code) (hname : name ≠ "")
    (htarget : w.tree.target (Path.ofText name) = .ok place) :
    (session w args).Redirects (session w (args.withOutput (some name))) w.tree place := by
  obtain ⟨registry, auditor⟩ := prepared
  have hconfig' : prepare w.environment (args.withOutput (some name)) = .ok (registry, auditor) :=
    hconfig
  have haside : ∀ e ∈ (auditAll w registry auditor w.input args.files).1, e.IsAside :=
    forall_mem_auditAll w auditor registry (fun _ => trivial) (fun _ => trivial) _ _
  have hprints (text : String) : deliver w.tree none text = .ok [.prints text] := rfl
  simp only [session, hconfig, hconfig', houtput, hprints] at hstatus ⊢
  simp only [Arguments.withOutput, deliver_some hname htarget]
  cases haudits : (auditAll w registry auditor w.input args.files).2 with
  | error e => simp [haudits] at hstatus
  | ok entries => exact Outcome.redirects_of_isAside haside _ _ _ _ _

/-- A session without the option for the output that has an exit status, and a file that can be
written. If the auditor can be set up, a session with the same arguments and the file for the output
ends with the same status, prints nothing, writes that file and no other, and all that the file
holds is what was printed. If the auditor cannot be set up, nothing is printed, and a file for the
output changes nothing. The option can always be given in front of the arguments, and behind them
unless a separator is among them. -/
theorem run_redirects (hargs : Arguments.parse argv = .ok args)
    (hargv : ¬ setsOutput argv) (hdone : run w argv = .done o) (hstatus : o.ending = .status code)
    (hname : name ≠ "") (htarget : w.tree.target (Path.ofText name) = .ok place) :
    (∀ argv', Arguments.parse argv' = .ok { args with output := some name } →
      (∀ prepared, prepare w.environment args = .ok prepared →
        ∃ o', run w argv' = .done o' ∧ o.Redirects o' w.tree place)
      ∧ ∀ e, prepare w.environment args = .error e →
        run w argv' = .done o ∧ o.output = "" ∧ o.saved = [])
    ∧ ∀ option, NamesOutput name option →
      Arguments.parse (option ++ argv) = .ok { args with output := some name }
      ∧ ("--" ∉ argv →
        Arguments.parse (argv ++ option) = .ok { args with output := some name }) := by
  obtain rfl : session w args = o := by simpa [run, hargs] using hdone
  have houtput := output_eq_none hargs hargv
  refine ⟨fun argv' hargs' => ⟨fun prepared hconfig => ?_, fun e hconfig => ?_⟩,
    fun option hoption => ⟨parse_front hargs hargv hoption, fun hdashes =>
      parse_back hargs hdashes hoption⟩⟩
  · refine ⟨_, ?_, session_redirects hconfig houtput hstatus hname htarget⟩
    rw [run, hargs']
    rfl
  · obtain ⟨hsame, hprints, hsaves⟩ := session_of_error hconfig (some name)
    exact ⟨by rw [run, hargs', ← hsame]; rfl, hprints, hsaves⟩

/-- A page that is audited and then overwritten with the report on it. -/
theorem run_redirects_audited :
    let w : World := {
      readers := Markup.readers
      tree := { files := [(["a.html"], "<p>Hi".toUTF8.toList)] } }
    ∃ o o', run w ["a.html", "--format", "json"] = .done o
      ∧ run w ["a.html", "--format", "json", "--output", "a.html"] = .done o'
      ∧ run w ["--output=a.html", "a.html", "--format", "json"] = .done o'
      ∧ o.Redirects o' w.tree ["a.html"] := by
  intro w
  have hargs : Arguments.parse ["a.html", "--format", "json"]
      = .ok { files := ["a.html"], format := .json } := by decide +kernel
  have hstatus : (session w { files := ["a.html"], format := .json }).ending = .status 0 := by
    decide +kernel
  have htarget : w.tree.target (Path.ofText "a.html") = .ok ["a.html"] := by decide +kernel
  obtain ⟨hruns, hplaces⟩ := run_redirects hargs (by decide +kernel) (by rw [run, hargs])
    hstatus (by decide) htarget
  have hback := (hplaces _ (.apart (by decide +kernel))).2 (by decide)
  have hfront := (hplaces _ .joined).1
  have hjoined : ["--output" ++ "=" ++ "a.html"] = ["--output=a.html"] := by decide +kernel
  rw [hjoined, List.singleton_append] at hfront
  obtain ⟨o', hdone, hredirects⟩ := (hruns _ hback).1 _ rfl
  refine ⟨_, o', by rw [run, hargs], hdone, ?_, hredirects⟩
  rw [run, hback] at hdone
  rw [run, hfront]
  exact hdone

/-- The auditor cannot be set up, so a file for the output keeps what was in it before. -/
theorem not_run_redirects_unprepared :
    let w : World := {
      readers := Markup.readers
      environment := { reader := some "bogus" }
      tree := {
        files := [(["a.html"], "<p>Hi".toUTF8.toList), (["out.txt"], "old".toUTF8.toList)] } }
    ∃ o o', run w ["a.html"] = .done o ∧ o.ending = .status 2
      ∧ w.tree.target (Path.ofText "out.txt") = .ok ["out.txt"]
      ∧ run w ["a.html", "--output", "out.txt"] = .done o'
      ∧ (o'.leaves w.tree).files.lookup ["out.txt"] = some "old".toUTF8.toList
      ∧ o.output.toUTF8.toList ≠ "old".toUTF8.toList := by
  intro w
  have hargs : Arguments.parse ["a.html"] = .ok { files := ["a.html"] } := by decide +kernel
  have hargs' : Arguments.parse ["a.html", "--output", "out.txt"]
      = .ok { files := ["a.html"], output := some "out.txt" } := by decide +kernel
  exact ⟨_, _, by rw [run, hargs], by decide +kernel, by decide +kernel, by rw [run, hargs'],
    by decide +kernel, by decide +kernel⟩

end CommandLine

end PageAudit
