import Mathlib.Data.List.Basic
import PageAudit.Proofs.CommandLine.Reading

/-!
# Options that are added

Options of some kind are added to arguments, in any number and at any places in front of a
separator (`Added`). If arguments that are related overlook options of that kind (`Overlooks`), then
what is read with them is related to what is read without them, wherever they stand, as long as both
are accepted (`related_of_added`). In front of everything they are accepted always
(`accepted_front`), and behind everything if no separator makes operands of them
(`accepted_back`).
-/

namespace PageAudit.CommandLine

open Parsing

/-- The spelling of an option with two dashes. -/
def Flag.long : Flag → String
  | help => "--help"
  | format => "--format"
  | output => "--output"
  | reader => "--parser"
  | delay => "--delay"
  | progress => "--progress"
  | failOn => "--fail-on"
  | verbose => "--verbose"

theorem Flag.ofArgument_long (f : Flag) : Word.ofArgument f.long = .ok (.flag f false none) := by
  cases f <;> decide +kernel

/-- Two dashes are no operand, as they separate the operands behind them. -/
theorem ne_dashes_of_isOperand {text : String} (h : Word.ofArgument text = .ok (.operand text)) :
    text ≠ "--" := by
  rintro rfl
  have hdashes : Word.ofArgument "--" ≠ .ok (.operand "--") := by decide +kernel
  exact hdashes h

/-- An option that is added, with its value if it takes one. The value is an argument of its own
and does not look like an option. -/
structure Extra where
  flag : Flag
  value : Option String
  takes : flag.takesValue = value.isSome
  isOperand : ∀ text ∈ value, Word.ofArgument text = .ok (.operand text)

namespace Extra

/-- The arguments that give the option. -/
def spelled (e : Extra) : List String :=
  e.flag.long :: e.value.toList

/-- The value as a word, if there is one. -/
def operands (e : Extra) : List Word :=
  e.value.toList.map .operand

/-- The words that the arguments are. -/
def words (e : Extra) : List Word :=
  .flag e.flag false none :: e.operands

end Extra

/-- In the arguments on the right, options of a kind are added. Behind a separator there are none,
because there they would be files. -/
inductive Added (P : Extra → Prop) : List String → List String → Prop where
  | same (argv : List String) : Added P argv argv
  | argument {argv argv' : List String} {text : String} (htext : text ≠ "--")
      (h : Added P argv argv') : Added P (text :: argv) (text :: argv')
  | extra {argv argv' : List String} {e : Extra} (he : P e) (h : Added P argv argv') :
      Added P argv (e.spelled ++ argv')

/-- In the words on the right, options of a kind are added. -/
inductive AddedWords (P : Extra → Prop) : List Word → List Word → Prop where
  | nil : AddedWords P [] []
  | word {ws ws' : List Word} (w : Word) (h : AddedWords P ws ws') :
      AddedWords P (w :: ws) (w :: ws')
  | extra {ws ws' : List Word} {e : Extra} (he : P e) (h : AddedWords P ws ws') :
      AddedWords P ws (.flag e.flag false none :: (e.operands ++ ws'))

variable {P : Extra → Prop} {argv argv' : List String}

theorem Added.front : ∀ {es : List Extra}, (∀ e ∈ es, P e) →
    Added P argv (es.flatMap Extra.spelled ++ argv)
  | [], _ => .same argv
  | e :: es, h => by
    rw [List.flatMap_cons, List.append_assoc]
    exact .extra (h e List.mem_cons_self) (front fun e he => h e (List.mem_cons_of_mem _ he))

theorem Added.back {es : List Extra} (hes : ∀ e ∈ es, P e) :
    ∀ {argv : List String}, "--" ∉ argv → Added P argv (argv ++ es.flatMap Extra.spelled)
  | [], _ => by
    have hfront : Added P [] (es.flatMap Extra.spelled ++ []) := front hes
    simpa using hfront
  | text :: argv, h => by
    obtain ⟨htext, hargv⟩ := not_or.mp (mt List.mem_cons.mpr h)
    exact .argument (Ne.symm htext) (back hes hargv)

/-! ## From arguments to words -/

theorem ofArguments_cons {text : String} {texts : List String} {ws : List Word}
    (htext : text ≠ "--") : Word.ofArguments (text :: texts) = .ok ws ↔
      ∃ w, Word.ofArgument text = .ok w
        ∧ ∃ ws', Word.ofArguments texts = .ok ws' ∧ w :: ws' = ws := by
  simp only [Word.ofArguments, htext, ↓reduceIte, bind_eq_ok_iff, pure, Except.pure,
    Except.ok.injEq]

theorem ofArguments_append {more : List String} {ws' : List Word}
    (hmore : Word.ofArguments more = .ok ws') :
    ∀ {texts : List String} {ws : List Word}, "--" ∉ texts → Word.ofArguments texts = .ok ws →
      Word.ofArguments (texts ++ more) = .ok (ws ++ ws')
  | [], ws, _, h => by
    obtain rfl := Except.ok.inj h
    exact hmore
  | text :: texts, ws, htexts, h => by
    obtain ⟨htext, htexts⟩ := not_or.mp (mt List.mem_cons.mpr htexts)
    obtain ⟨w, hw, ws, hws, rfl⟩ := (ofArguments_cons (Ne.symm htext)).mp h
    exact (ofArguments_cons (Ne.symm htext)).mpr
      ⟨w, hw, _, ofArguments_append hmore htexts hws, rfl⟩

namespace Extra
variable (e : Extra)

theorem not_mem_spelled : "--" ∉ e.spelled := by
  have hlong : "--" ≠ e.flag.long := by cases e.flag <;> decide
  have hvalue : "--" ∉ e.value := fun h => ne_dashes_of_isOperand (e.isOperand _ h) rfl
  simpa [spelled, hlong] using hvalue

theorem ofArguments_spelled : Word.ofArguments e.spelled = .ok e.words := by
  have hlong : e.flag.long ≠ "--" := fun h => e.not_mem_spelled (h ▸ List.mem_cons_self)
  refine (ofArguments_cons hlong).mpr ⟨_, e.flag.ofArgument_long, e.operands, ?_, rfl⟩
  cases hvalue : e.value with
  | none => simp [operands, hvalue, Word.ofArguments]
  | some text =>
    have htext : text ≠ "--" := fun h => e.not_mem_spelled (by simp [spelled, hvalue, h])
    simp only [operands, hvalue, Option.toList_some, List.map_cons, List.map_nil]
    exact (ofArguments_cons htext).mpr ⟨_, e.isOperand text hvalue, [], rfl, rfl⟩

theorem not_mem_flatMap_spelled (es : List Extra) : "--" ∉ es.flatMap spelled := by
  simp only [List.mem_flatMap, not_exists, not_and]
  exact fun e _ => e.not_mem_spelled

theorem ofArguments_flatMap_spelled :
    ∀ es : List Extra, Word.ofArguments (es.flatMap spelled) = .ok (es.flatMap words)
  | [] => rfl
  | e :: es => ofArguments_append (ofArguments_flatMap_spelled es) e.not_mem_spelled
      e.ofArguments_spelled

end Extra

theorem AddedWords.refl : ∀ ws : List Word, AddedWords P ws ws
  | [] => .nil
  | w :: ws => .word w (refl ws)

theorem Added.ofArguments (h : Added P argv argv') :
    ∀ {ws : List Word}, Word.ofArguments argv = .ok ws →
      ∃ ws', Word.ofArguments argv' = .ok ws' ∧ AddedWords P ws ws' := by
  induction h with
  | same => exact fun h => ⟨_, h, .refl _⟩
  | argument htext _ ih =>
    intro ws h
    obtain ⟨w, hw, rest, hrest, rfl⟩ := (ofArguments_cons htext).mp h
    obtain ⟨rest', hrest', hadded⟩ := ih hrest
    exact ⟨w :: rest', (ofArguments_cons htext).mpr ⟨w, hw, rest', hrest', rfl⟩, .word w hadded⟩
  | @extra _ _ e he _ ih =>
    intro ws h
    obtain ⟨ws', hws', hadded⟩ := ih h
    exact ⟨e.words ++ ws', ofArguments_append hws' e.not_mem_spelled e.ofArguments_spelled,
      .extra he hadded⟩

/-! ## Arguments that are related -/

/-- Arguments in the relation stay in it whatever is read, and when an option of the kind is read
for those on the right alone. -/
structure Overlooks (R : Arguments → Arguments → Prop) (P : Extra → Prop) : Prop where
  refl (a : Arguments) : R a a
  file {a a' : Arguments} (text : String) (h : R a a') :
    R { a with files := a.files ++ [text] } { a' with files := a'.files ++ [text] }
  switch {a a' b : Arguments} {f : Flag} (h : R a a') (hb : switch a f = .ok b) :
    ∃ b', Parsing.switch a' f = .ok b' ∧ R b b'
  assign {a a' b : Arguments} {f : Flag} {value : String} (h : R a a')
    (hb : assign a f value = .ok b) : ∃ b', Parsing.assign a' f value = .ok b' ∧ R b b'
  extra {a a' : Arguments} {e : Extra} (he : P e) (h : R a a') :
    ∃ b', obey a' [] e.flag e.value = .ok b' ∧ R a b'

theorem Extra.takeFlag_eq_ok_iff {e : Extra} {p q : Parsing} {rest : List Word} {used : Nat} :
    p.takeFlag e.flag false none (e.operands ++ rest) = .ok (q, used) ↔
      (∃ a, Parsing.obey p.arguments [] e.flag e.value = .ok a
        ∧ { p with arguments := a, inFiles := false } = q) ∧ e.operands.length = used := by
  have hvalue : takeValue e.flag none (e.operands ++ rest) = .ok (e.value, e.operands.length) := by
    obtain ⟨f, value, htakes, _⟩ := e
    cases value <;> simp_all [takeValue, operands]
  simp only [Parsing.takeFlag_eq_ok_iff, unbundle, Except.ok.injEq, Prod.mk.injEq]
  constructor
  · rintro ⟨_, _, _, value, a, ⟨rfl, rfl, rfl⟩, hused, ha, rfl⟩
    obtain ⟨rfl, rfl⟩ := Prod.mk.inj (Except.ok.inj (hvalue.symm.trans hused))
    exact ⟨⟨a, ha, rfl⟩, rfl⟩
  · rintro ⟨⟨a, ha, rfl⟩, rfl⟩
    exact ⟨_, _, _, e.value, a, ⟨rfl, rfl, rfl⟩, hvalue, ha, rfl⟩

theorem Parsing.Reads.extra {e : Extra} {p q : Parsing} {a : Arguments} {ws : List Word}
    (ha : Parsing.obey p.arguments [] e.flag e.value = .ok a)
    (h : Reads { p with arguments := a, inFiles := false } ws q) : Reads p (e.words ++ ws) q := by
  rw [Extra.words, List.cons_append]
  refine .flag (Extra.takeFlag_eq_ok_iff.mpr ⟨⟨a, ha, rfl⟩, rfl⟩) ?_
  rwa [List.drop_left]

/-- Both options have the same value, so what is behind them differs in added options again. -/
theorem AddedWords.takeValue {rest rest' : List Word} (h : AddedWords P rest rest') {f : Flag}
    {attached value value' : Option String} {used used' : Nat}
    (hvalue : takeValue f attached rest = .ok (value, used))
    (hvalue' : takeValue f attached rest' = .ok (value', used')) :
    value = value' ∧ AddedWords P (rest.drop used) (rest'.drop used') := by
  rcases takeValue_cases hvalue with ⟨rfl, hany⟩ | ⟨text, tail, rfl, rfl, hany⟩
  · obtain ⟨rfl, rfl⟩ := Prod.mk.inj (Except.ok.inj ((hany rest').symm.trans hvalue'))
    exact ⟨rfl, h⟩
  · cases h with
    | word _ h =>
      obtain ⟨rfl, rfl⟩ := Prod.mk.inj (Except.ok.inj ((hany _).symm.trans hvalue'))
      exact ⟨rfl, h⟩
    | extra _ _ =>
      -- The operand would be the value, but an option stands in front of it.
      rcases takeValue_cases hvalue' with ⟨-, hany'⟩ | ⟨_, _, hrest', -⟩
      · cases hvalue.symm.trans (hany' _)
      · cases hrest'

variable {R : Arguments → Arguments → Prop} (hR : Overlooks R P)
include hR

namespace Overlooks

theorem foldlM_switch : ∀ {fs : List Flag} {a a' b : Arguments}, R a a' →
    fs.foldlM Parsing.switch a = .ok b → ∃ b', fs.foldlM Parsing.switch a' = .ok b' ∧ R b b'
  | [], _, a', _, h, hb => ⟨a', rfl, Except.ok.inj hb ▸ h⟩
  | f :: fs, a, a', b, h, hb => by
    rw [List.foldlM_cons, bind_eq_ok_iff] at hb
    obtain ⟨c, hc, hb⟩ := hb
    obtain ⟨c', hc', h⟩ := hR.switch h hc
    obtain ⟨b', hb', h⟩ := foldlM_switch h hb
    exact ⟨b', by rw [List.foldlM_cons, bind_eq_ok_iff]; exact ⟨c', hc', hb'⟩, h⟩

theorem obey {a a' b : Arguments} {before : List Flag} {last : Flag} {value : Option String}
    (h : R a a') (hb : obey a before last value = .ok b) :
    ∃ b', Parsing.obey a' before last value = .ok b' ∧ R b b' := by
  obtain ⟨c, hc, hb⟩ := bind_eq_ok_iff.mp hb
  obtain ⟨c', hc', h⟩ := hR.foldlM_switch h hc
  simp only [Parsing.obey, bind_eq_ok_iff]
  cases value with
  | none =>
    obtain ⟨b', hb', h⟩ := hR.switch h hb
    exact ⟨b', ⟨c', hc', hb'⟩, h⟩
  | some value =>
    obtain ⟨b', hb', h⟩ := hR.assign h hb
    exact ⟨b', ⟨c', hc', hb'⟩, h⟩

theorem takeFlag {p q : Parsing} {a : Arguments} {f : Flag} {bundled : Bool}
    {written : Option (List Char)} {rest : List Word} {used : Nat} (h : R p.arguments a)
    (hq : p.takeFlag f bundled written rest = .ok (q, used)) :
    ∃ b, { p with arguments := a }.takeFlag f bundled written rest
        = .ok ({ q with arguments := b }, used) ∧ R q.arguments b := by
  obtain ⟨before, last, attached, value, _, hunbundle, hvalue, hc, rfl⟩ :=
    takeFlag_eq_ok_iff.mp hq
  obtain ⟨b, hb, h⟩ := hR.obey h hc
  exact ⟨b, takeFlag_eq_ok_iff.mpr
    ⟨before, last, attached, value, b, hunbundle, hvalue, hb, rfl⟩, h⟩

theorem takeFlag_of_added {p p' q q' : Parsing} {f : Flag} {bundled : Bool}
    {written : Option (List Char)} {rest rest' : List Word} {used used' : Nat}
    (h : R p.arguments p'.arguments) (hadded : AddedWords P rest rest')
    (hq : p.takeFlag f bundled written rest = .ok (q, used))
    (hq' : p'.takeFlag f bundled written rest' = .ok (q', used')) :
    R q.arguments q'.arguments ∧ AddedWords P (rest.drop used) (rest'.drop used') := by
  obtain ⟨_, _, _, _, _, hunbundle, hvalue, hb, rfl⟩ := takeFlag_eq_ok_iff.mp hq
  obtain ⟨_, _, _, _, _, hunbundle', hvalue', hb', rfl⟩ := takeFlag_eq_ok_iff.mp hq'
  obtain ⟨rfl, rfl, rfl⟩ : _ ∧ _ ∧ _ := by
    simpa only [Except.ok.injEq, Prod.mk.injEq] using hunbundle.symm.trans hunbundle'
  obtain ⟨rfl, hadded⟩ := hadded.takeValue hvalue hvalue'
  obtain ⟨c, hc, h⟩ := hR.obey h hb
  obtain rfl := Except.ok.inj (hc.symm.trans hb')
  exact ⟨h, hadded⟩

/-- The same words are accepted from related arguments, and the arguments stay related. -/
theorem reads {p q : Parsing} {ws : List Word} (hq : Reads p ws q) :
    ∀ {a : Arguments}, R p.arguments a →
      ∃ b, Reads { p with arguments := a } ws { q with arguments := b } ∧ R q.arguments b := by
  induction hq with
  | done p => exact fun h => ⟨_, .done _, h⟩
  | @operand p q text rest hopen _ ih =>
    intro a h
    have hfile : R (p.takeOperand text).arguments { a with files := a.files ++ [text] } := by
      rw [takeOperand_eq hopen]
      exact hR.file text h
    obtain ⟨b, hb, h⟩ := ih hfile
    refine ⟨b, .operand hopen ?_, h⟩
    rwa [takeOperand_with_arguments hopen]
  | separator hvanishes _ ih =>
    intro a h
    obtain ⟨b, hb, h⟩ := ih h
    exact ⟨b, .separator hvanishes hb, h⟩
  | flag hflag _ ih =>
    intro a h
    obtain ⟨c, hc, h⟩ := hR.takeFlag h hflag
    obtain ⟨b, hb, h⟩ := ih h
    exact ⟨b, .flag hc hb, h⟩

/-- Where added words are accepted too, the arguments stay related. -/
theorem reads_of_added {p' q' : Parsing} {ws' : List Word} (hq' : Reads p' ws' q') :
    ∀ {p q : Parsing} {ws : List Word}, Reads p ws q → AddedWords P ws ws' →
      R p.arguments p'.arguments → R q.arguments q'.arguments := by
  induction hq' with
  | done =>
    rintro p q _ hq ⟨⟩ h
    cases hq
    exact h
  | operand hopen' _ ih =>
    rintro p q _ hq ⟨⟩ h
    rename_i hadded
    cases hq with
    | operand hopen hq =>
      refine ih hq hadded ?_
      rw [takeOperand_eq hopen, takeOperand_eq hopen']
      exact hR.file _ h
  | separator _ _ ih =>
    rintro p q _ hq ⟨⟩ h
    rename_i hadded
    cases hq with
    | separator _ hq => exact ih hq hadded h
  | flag hflag' _ ih =>
    intro p q ws hq hadded h
    cases hadded with
    | word _ hadded =>
      cases hq with
      | flag hflag hq =>
        obtain ⟨h, hadded⟩ := hR.takeFlag_of_added h hadded hflag hflag'
        exact ih hq hadded h
    | extra he hadded =>
      obtain ⟨⟨b, hb, rfl⟩, rfl⟩ := Extra.takeFlag_eq_ok_iff.mp hflag'
      rw [List.drop_left] at ih
      refine ih hq hadded ?_
      obtain ⟨c, hc, h⟩ := hR.extra he h
      obtain rfl := Except.ok.inj (hc.symm.trans hb)
      exact h

theorem reads_front {q : Parsing} {ws : List Word} (hq : Reads {} ws q) :
    ∀ {es : List Extra} {a : Arguments}, (∀ e ∈ es, P e) → R { files := [] } a →
      ∃ b, Reads { arguments := a } (es.flatMap Extra.words ++ ws) { q with arguments := b }
  | [], _, _, h => by
    obtain ⟨b, hb, -⟩ := hR.reads hq h
    exact ⟨b, hb⟩
  | e :: es, a, hes, h => by
    obtain ⟨c, hc, h⟩ := hR.extra (hes e List.mem_cons_self) h
    obtain ⟨b, hb⟩ := reads_front hq (fun e he => hes e (List.mem_cons_of_mem _ he)) h
    refine ⟨b, ?_⟩
    rw [List.flatMap_cons, List.append_assoc]
    exact .extra hc hb

theorem reads_back :
    ∀ {es : List Extra} (q : Parsing), (∀ e ∈ es, P e) →
      ∃ r, Reads q (es.flatMap Extra.words) r ∧ r.begun = q.begun
  | [], q, _ => ⟨q, .done q, rfl⟩
  | e :: es, q, hes => by
    obtain ⟨c, hc, -⟩ := hR.extra (hes e List.mem_cons_self) (hR.refl q.arguments)
    obtain ⟨r, hr, hbegun⟩ := reads_back { q with arguments := c, inFiles := false }
      fun e he => hes e (List.mem_cons_of_mem _ he)
    refine ⟨r, ?_, hbegun⟩
    rw [List.flatMap_cons]
    exact .extra hc hr

end Overlooks

/-! ## Arguments with options added -/

theorem related_of_added {args args' : Arguments} (hargs : Arguments.parse argv = .ok args)
    (hadded : Added P argv argv') (hargs' : Arguments.parse argv' = .ok args') : R args args' := by
  obtain ⟨ws, q, hws, hq, -, rfl⟩ := parse_eq_ok_iff.mp hargs
  obtain ⟨_, q', hws', hq', -, rfl⟩ := parse_eq_ok_iff.mp hargs'
  obtain ⟨ws', hadded', hwords⟩ := hadded.ofArguments hws
  obtain rfl := Except.ok.inj (hadded'.symm.trans hws')
  exact hR.reads_of_added hq' hq hwords (hR.refl _)

theorem accepted_front {args : Arguments} {es : List Extra} (hes : ∀ e ∈ es, P e)
    (hargs : Arguments.parse argv = .ok args) :
    ∃ args', Arguments.parse (es.flatMap Extra.spelled ++ argv) = .ok args' := by
  obtain ⟨ws, q, hws, hq, hbegun, rfl⟩ := parse_eq_ok_iff.mp hargs
  obtain ⟨b, hb⟩ := hR.reads_front hq hes (hR.refl _)
  have hwords := ofArguments_append hws (Extra.not_mem_flatMap_spelled es)
    (Extra.ofArguments_flatMap_spelled es)
  exact ⟨b, parse_eq_ok_iff.mpr ⟨_, _, hwords, hb, hbegun, rfl⟩⟩

theorem accepted_back {args : Arguments} {es : List Extra} (hes : ∀ e ∈ es, P e)
    (hargs : Arguments.parse argv = .ok args) (hargv : "--" ∉ argv) :
    ∃ args', Arguments.parse (argv ++ es.flatMap Extra.spelled) = .ok args' := by
  obtain ⟨ws, q, hws, hq, hbegun, rfl⟩ := parse_eq_ok_iff.mp hargs
  obtain ⟨r, hr, hrbegun⟩ := hR.reads_back q hes
  have hwords := ofArguments_append (Extra.ofArguments_flatMap_spelled es) hargv hws
  exact ⟨r.arguments, parse_eq_ok_iff.mpr
    ⟨_, r, hwords, hq.append hr, hrbegun ▸ hbegun, rfl⟩⟩

end PageAudit.CommandLine
