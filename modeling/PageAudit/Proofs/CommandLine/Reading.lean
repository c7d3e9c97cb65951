import Mathlib.Logic.Basic
import PageAudit.CommandLine.Arguments

/-!
# Arguments that are accepted

Words are accepted if each of them is one of the files, a separator that vanishes, or an option with
what belongs to it. Such a reading is a derivation (`Reads`), which goes through the words without
the bookkeeping of `Parsing.takeAll`: nothing is skipped and nothing is left over. Arguments are
accepted if their words have a derivation that meets a file (`parse_eq_ok_iff`). Derivations follow
one another (`Reads.append`).

What an option does to the arguments (`obey`) depends on its value alone, and it does the same to
any arguments (`exists_sets`). The words behind it only say what the value is
(`takeFlag_eq_ok_iff`).
-/

namespace PageAudit.CommandLine

section Except
variable {α β ε ε' : Type}

theorem bind_eq_ok_iff {x : Except ε α} {f : α → Except ε β} {b : β} :
    x >>= f = .ok b ↔ ∃ a, x = .ok a ∧ f a = .ok b := by
  cases x <;> simp [bind, Except.bind]

theorem mapError_eq_ok_iff {x : Except ε α} {f : ε → ε'} {a : α} :
    x.mapError f = .ok a ↔ x = .ok a := by
  cases x <;> constructor <;> intro h <;> cases h <;> rfl

end Except

namespace Parsing

/-- What options in one word do to the arguments, the last of them with its value if there is
one. -/
def obey (a : Arguments) (before : List Flag) (last : Flag) (value : Option String) :
    Except Stop Arguments := do
  let a ← before.foldlM switch a
  match value with
  | some value => assign a last value
  | none => switch a last

/-- What an option with a value may do to the arguments: it sets what is its own, if anything. -/
inductive Sets : Flag → (Arguments → Arguments) → Prop where
  | format (format : Format) : Sets .format fun a => { a with format }
  | output (output : Option String) : Sets .output fun a => { a with output }
  | reader (reader : Option String) : Sets .reader fun a => { a with reader }
  | delay (delay : Option Double) : Sets .delay fun a => { a with delay }
  | failOn (failOn : Option Severity) : Sets .failOn fun a => { a with failOn }
  | nothing (f : Flag) : Sets f id

/-- Words are read to their end, and each of them is accepted. -/
inductive Reads : Parsing → List Word → Parsing → Prop where
  | done (p : Parsing) : Reads p [] p
  | operand {p q : Parsing} {text : String} {rest : List Word} (hopen : p.inFiles || !p.begun)
      (h : Reads (p.takeOperand text) rest q) : Reads p (.operand text :: rest) q
  | separator {p q : Parsing} {rest : List Word}
      (hvanishes : p.inFiles || (!p.begun && !rest.isEmpty)) (h : Reads p rest q) :
      Reads p (.separator :: rest) q
  | flag {p q r : Parsing} {f : Flag} {bundled : Bool} {written : Option (List Char)}
      {rest : List Word} {used : Nat} (hflag : p.takeFlag f bundled written rest = .ok (r, used))
      (h : Reads r (rest.drop used) q) : Reads p (.flag f bundled written :: rest) q

variable {p q r : Parsing} {f : Flag} {bundled : Bool} {written : Option (List Char)}
  {rest more ws : List Word} {value : Option String} {used : Nat}

/-! ## One word -/

/-- Whether a value is accepted, and what it sets, does not depend on what has been set before. -/
theorem exists_sets {a b : Arguments} {value : String} (h : assign a f value = .ok b) :
    ∃ set, Sets f set ∧ set a = b ∧ ∀ a', assign a' f value = .ok (set a') := by
  unfold assign at h ⊢
  by_cases hchoice : !f.choices.isEmpty && !f.choices.contains value
  · rw [if_pos hchoice] at h
    cases h
  simp only [if_neg hchoice] at h ⊢
  cases f with
  | format => cases h; exact ⟨_, .format _, rfl, fun _ => rfl⟩
  | output => cases h; exact ⟨_, .output _, rfl, fun _ => rfl⟩
  | reader => cases h; exact ⟨_, .reader _, rfl, fun _ => rfl⟩
  | failOn => cases h; exact ⟨_, .failOn _, rfl, fun _ => rfl⟩
  | delay =>
    cases hd : Double.parse? value with
    | none => simp [hd, misuse] at h
    | some d =>
      simp only [hd, Except.ok.injEq] at h
      exact ⟨_, .delay (some d), h, fun _ => rfl⟩
  | _ => cases h; exact ⟨_, .nothing _, rfl, fun _ => rfl⟩

theorem takeFlag_eq :
    p.takeFlag f bundled written rest = (do
      let (before, last, attached) ← (unbundle f bundled written).mapError .misuse
      let (value, used) ← (takeValue last attached rest).mapError .misuse
      let a ← obey p.arguments before last value
      return ({ p with arguments := a, inFiles := false }, used)) := by
  unfold takeFlag obey
  simp only [bind_assoc]
  refine bind_congr fun unbundled => bind_congr fun taken => bind_congr fun a => ?_
  obtain ⟨value, used⟩ := taken
  cases value <;> rfl

theorem takeFlag_eq_ok_iff :
    p.takeFlag f bundled written rest = .ok (q, used) ↔
      ∃ before last attached value a, unbundle f bundled written = .ok (before, last, attached)
        ∧ takeValue last attached rest = .ok (value, used)
        ∧ obey p.arguments before last value = .ok a
        ∧ { p with arguments := a, inFiles := false } = q := by
  simp only [takeFlag_eq, bind_eq_ok_iff, mapError_eq_ok_iff, pure, Except.pure,
    Except.ok.injEq, Prod.exists, Prod.mk.injEq]
  constructor
  · rintro ⟨before, last, attached, hunbundle, value, n, hvalue, a, ha, hq, rfl⟩
    exact ⟨before, last, attached, value, a, hunbundle, hvalue, ha, hq⟩
  · rintro ⟨before, last, attached, value, a, hunbundle, hvalue, ha, hq⟩
    exact ⟨before, last, attached, hunbundle, value, used, hvalue, a, ha, hq, rfl⟩

/-- The value of an option does not depend on what follows, or it is the operand that follows. -/
theorem takeValue_cases {attached : Option String}
    (h : takeValue f attached rest = .ok (value, used)) :
    (used = 0 ∧ ∀ rest', takeValue f attached rest' = .ok (value, 0))
      ∨ ∃ text tail, rest = .operand text :: tail ∧ used = 1
        ∧ ∀ tail', takeValue f attached (.operand text :: tail') = .ok (value, 1) := by
  unfold takeValue at h
  split at h
  · rename_i hf
    obtain ⟨rfl, rfl⟩ := Prod.mk.inj (Except.ok.inj h)
    exact .inl ⟨rfl, fun rest' => by simp [takeValue, hf]⟩
  · rename_i hf
    obtain ⟨rfl, rfl⟩ := Prod.mk.inj (Except.ok.inj h)
    exact .inl ⟨rfl, fun rest' => by simp [takeValue, hf]⟩
  · rename_i hf
    obtain ⟨rfl, rfl⟩ := Prod.mk.inj (Except.ok.inj h)
    exact .inr ⟨_, _, rfl, rfl, fun tail' => by simp [takeValue, hf]⟩
  · cases h

/-- Words further on do not matter to an option. -/
theorem takeFlag_append (h : p.takeFlag f bundled written rest = .ok (q, used)) :
    p.takeFlag f bundled written (rest ++ more) = .ok (q, used)
      ∧ (rest ++ more).drop used = rest.drop used ++ more := by
  obtain ⟨before, last, attached, value, a, hunbundle, hvalue, ha, hq⟩ := takeFlag_eq_ok_iff.mp h
  rw [takeFlag_eq_ok_iff]
  rcases takeValue_cases hvalue with ⟨rfl, hany⟩ | ⟨text, tail, rfl, rfl, hany⟩
  · exact ⟨⟨before, last, attached, value, a, hunbundle, hany _, ha, hq⟩, rfl⟩
  · exact ⟨⟨before, last, attached, value, a, hunbundle, hany _, ha, hq⟩, rfl⟩

theorem takeOperand_eq {text : String} (hopen : p.inFiles || !p.begun) :
    p.takeOperand text = { p with
      begun := true
      inFiles := true
      arguments := { p.arguments with files := p.arguments.files ++ [text] } } :=
  if_pos hopen

theorem takeOperand_with_arguments {a : Arguments} {text : String} (hopen : p.inFiles || !p.begun) :
    { p with arguments := a }.takeOperand text
      = { p.takeOperand text with arguments := { a with files := a.files ++ [text] } } := by
  rw [takeOperand_eq hopen]
  exact takeOperand_eq hopen

theorem takeSeparator_eq (hvanishes : p.inFiles || (!p.begun && !rest.isEmpty)) :
    p.takeSeparator rest = p :=
  if_pos hvanishes

/-! ## All words -/

theorem takeAll_drop :
    ∀ (p : Parsing) (n : Nat) (ws : List Word), p.takeAll n ws = p.takeAll 0 (ws.drop n)
  | _, _, [] => by simp [takeAll]
  | _, 0, _ :: _ => rfl
  | p, n + 1, _ :: ws => takeAll_drop p n ws

namespace Reads

theorem unrecognized_eq (h : Reads p ws q) : q.unrecognized = p.unrecognized := by
  induction h with
  | done => rfl
  | operand hopen _ ih => rw [ih, takeOperand_eq hopen]
  | separator _ _ ih => exact ih
  | flag hflag _ ih =>
    obtain ⟨_, _, _, _, _, -, -, -, rfl⟩ := takeFlag_eq_ok_iff.mp hflag
    exact ih

theorem takeAll_eq (h : Reads p ws q) : p.takeAll 0 ws = .ok q := by
  induction h with
  | done => rfl
  | operand _ _ ih => exact ih
  | separator hvanishes _ ih =>
    rw [takeAll, takeSeparator_eq hvanishes]
    exact ih
  | flag hflag _ ih =>
    rw [takeAll, hflag, ← ih, ← takeAll_drop]
    rfl

/-- What is not recognized stays so: if nothing is left over in the end, nothing ever was. -/
theorem of_takeAll :
    ∀ (p : Parsing) (n : Nat) (ws : List Word), p.takeAll n ws = .ok q → q.unrecognized = [] →
      Reads p (ws.drop n) q
  | p, n, [], h, _ => by
    simp only [takeAll, Except.ok.injEq] at h
    subst h
    simpa using done p
  | p, n + 1, _ :: ws, h, hq => of_takeAll p n ws h hq
  | p, 0, .operand text :: ws, h, hq => by
    have hrest := of_takeAll _ 0 ws h hq
    refine operand (by_contra fun hclosed => ?_) hrest
    have hleft := hrest.unrecognized_eq
    rw [takeOperand, if_neg hclosed, hq] at hleft
    simp at hleft
  | p, 0, .separator :: ws, h, hq => by
    have hrest := of_takeAll _ 0 ws h hq
    by_cases hvanishes : p.inFiles || (!p.begun && !ws.isEmpty)
    · rw [takeSeparator_eq hvanishes] at hrest
      exact separator hvanishes hrest
    · have hleft := hrest.unrecognized_eq
      rw [takeSeparator, if_neg hvanishes, hq] at hleft
      simp at hleft
  | p, 0, .unknown text :: ws, h, hq => by
    have hleft := (of_takeAll _ 0 ws h hq).unrecognized_eq
    simp [hq] at hleft
  | p, 0, .flag f bundled written :: ws, h, hq => by
    obtain ⟨⟨r, used⟩, hflag, hrest⟩ := bind_eq_ok_iff.mp h
    exact flag hflag (of_takeAll r used ws hrest hq)

/-- Words after words that are accepted. -/
theorem append (h : Reads p ws q) (h' : Reads q more r) : Reads p (ws ++ more) r := by
  induction h with
  | done => exact h'
  | operand hopen _ ih => exact operand hopen (ih h')
  | separator hvanishes _ ih =>
    refine separator ?_ (ih h')
    revert hvanishes
    simp +contextual [or_imp]
  | flag hflag _ ih =>
    obtain ⟨hflag, hdrop⟩ := takeFlag_append hflag
    exact flag hflag (hdrop ▸ ih h')

end Reads

end Parsing

/-! ## All arguments -/

open Parsing

/-- Arguments are accepted if their words are and there is a file among them. -/
theorem parse_eq_ok_iff {texts : List String} {args : Arguments} :
    Arguments.parse texts = .ok args ↔ ∃ ws q, Word.ofArguments texts = .ok ws
      ∧ Reads {} ws q ∧ q.begun ∧ q.arguments = args := by
  simp only [Arguments.parse, bind_eq_ok_iff, mapError_eq_ok_iff, misuse]
  constructor
  · rintro ⟨ws, hws, q, hq, h⟩
    split at h
    · cases h
    · rename_i hbegun
      split at h
      · cases h
      · rename_i hleft
        exact ⟨ws, q, hws, .of_takeAll {} 0 ws hq (by simpa using hleft), by simpa using hbegun,
          Except.ok.inj h⟩
  · rintro ⟨ws, q, hws, hq, hbegun, rfl⟩
    refine ⟨ws, hws, q, hq.takeAll_eq, ?_⟩
    simp [hbegun, hq.unrecognized_eq, pure, Except.pure]

end PageAudit.CommandLine
