import Mathlib.Data.List.DropRight
import PageAudit.Proofs.Json.Quoted

/-!
# Reading JSON back

A value is plain if there is no number in it and no object with a key twice. Every plain value is
read back from its written form (`parse?_pretty`), with either way of escaping and blanks after it.

A value at some depth is read back whatever follows it (`ReadsBack`), since its written form tells
where it ends. This passes from the items of an array and from the members of an object to the whole
(`readItems_write`, `readMembers_write`); the fuel that is needed is the length of the text.
-/

namespace PageAudit.Json

/-- No number in it, and no key twice in one object. -/
inductive IsPlain : Json → Prop where
  | null : IsPlain null
  | bool (b : Bool) : IsPlain (bool b)
  | str (s : String) : IsPlain (str s)
  | arr {xs : List Json} (items : ∀ x ∈ xs, IsPlain x) : IsPlain (arr xs)
  | obj {ms : List (String × Json)} (keys : (ms.map Prod.fst).Nodup)
      (values : ∀ m ∈ ms, IsPlain m.2) : IsPlain (obj ms)

theorem IsPlain.cons {k : String} {x : Json} {ms : List (String × Json)}
    (hk : k ∉ ms.map Prod.fst) (hx : IsPlain x) (h : IsPlain (.obj ms)) :
    IsPlain (.obj ((k, x) :: ms)) := by
  cases h with
  | obj keys values =>
    refine .obj (List.nodup_cons.mpr ⟨hk, keys⟩) fun m hm => ?_
    rcases List.mem_cons.mp hm with rfl | hm
    · exact hx
    · exact values m hm

/-! ## Blanks -/

theorem dropSpace_append {t : List Char} (h : ∀ c ∈ t, isSpace c) (s : List Char) :
    dropSpace (t ++ s) = dropSpace s :=
  List.dropWhile_append_of_pos h

theorem dropSpace_lead (indented : Bool) (depth : Nat) (s : List Char) :
    dropSpace (lead indented depth ++ s) = dropSpace s := by
  refine dropSpace_append (fun c hc => ?_) s
  unfold lead at hc
  split at hc
  · rcases List.mem_cons.mp hc with rfl | hc
    · rfl
    · rw [List.eq_of_mem_replicate hc]
      rfl
  · simp at hc

theorem dropSpace_cons {c : Char} (h : isSpace c = false) (s : List Char) :
    dropSpace (c :: s) = c :: s := by
  simp [dropSpace, h]

theorem dropSpace_dropSpace (s : List Char) : dropSpace (dropSpace s) = dropSpace s :=
  List.dropWhile_idempotent _ s

theorem readValue_dropSpace (fuel : Nat) (s : List Char) :
    readValue fuel (dropSpace s) = readValue fuel s := by
  cases fuel with
  | zero => rfl
  | succ fuel => rw [readValue, readValue, dropSpace_dropSpace]

theorem readItems_dropSpace (fuel : Nat) (s : List Char) :
    readItems fuel (dropSpace s) = readItems fuel s := by
  cases fuel with
  | zero => rfl
  | succ fuel => rw [readItems, readItems, readValue_dropSpace]

theorem readMembers_dropSpace (fuel : Nat) (before : List (String × Json)) (s : List Char) :
    readMembers fuel before (dropSpace s) = readMembers fuel before s := by
  cases fuel with
  | zero => rfl
  | succ fuel => rw [readMembers, readMembers, dropSpace_dropSpace]

theorem readValue_lead (fuel : Nat) (indented : Bool) (depth : Nat) (s : List Char) :
    readValue fuel (lead indented depth ++ s) = readValue fuel s := by
  rw [← readValue_dropSpace, dropSpace_lead, readValue_dropSpace]

/-! ## Brackets and braces -/

theorem readValue_bracket {fuel : Nat} {s : List Char} (h : ∀ t, dropSpace s ≠ ']' :: t) :
    readValue (fuel + 1) ('[' :: s) = (readItems fuel s).map fun (xs, rest) => (arr xs, rest) := by
  rw [readValue, dropSpace_cons rfl]
  simp only [readItems_dropSpace]

theorem readValue_brace {fuel : Nat} {s : List Char} (h : ∀ t, dropSpace s ≠ '\x7d' :: t) :
    readValue (fuel + 1) ('\x7b' :: s)
      = (readMembers fuel [] s).map fun (ms, rest) => (obj ms, rest) := by
  rw [readValue, dropSpace_cons rfl]
  simp only [readMembers_dropSpace]

/-- A plain value starts with a character that is no blank and closes no array. -/
theorem write_eq_cons (e : Escaping) (indented : Bool) (depth : Nat) {j : Json} (h : IsPlain j) :
    ∃ c t, write e indented depth j = c :: t ∧ isSpace c = false ∧ c ≠ ']' := by
  cases h with
  | null => exact ⟨_, _, rfl, rfl, by decide⟩
  | bool b => cases b <;> exact ⟨_, _, rfl, rfl, by decide⟩
  | str s => exact ⟨_, _, by rw [write, quoted], rfl, by decide⟩
  | @arr xs _ =>
    cases xs with
    | nil => exact ⟨_, _, by rw [write], rfl, by decide⟩
    | cons x xs => exact ⟨_, _, by rw [write], rfl, by decide⟩
  | @obj ms _ _ =>
    rcases ms with _ | ⟨⟨k, x⟩, ms⟩
    · exact ⟨_, _, by rw [write], rfl, by decide⟩
    · exact ⟨_, _, by rw [write], rfl, by decide⟩

theorem put_of_not_mem {k : String} (x : Json) :
    ∀ {ms : List (String × Json)}, k ∉ ms.map Prod.fst → put k x ms = ms ++ [(k, x)]
  | [], _ => rfl
  | (l, y) :: ms, h => by
    simp only [List.map_cons, List.mem_cons, not_or] at h
    have hne : l ≠ k := fun heq => h.1 heq.symm
    simp only [put, hne, ↓reduceIte, put_of_not_mem x h.2, List.cons_append]

/-! ## Values -/

/-- The value is read back from its written form, whatever follows it. -/
def ReadsBack (e : Escaping) (indented : Bool) (j : Json) : Prop :=
  ∀ (fuel depth : Nat) (rest : List Char), (write e indented depth j).length < fuel →
    readValue fuel (write e indented depth j ++ rest) = some (j, rest)

variable {e : Escaping} {indented : Bool}

theorem readItems_write (outer : Nat) (rest : List Char) :
    ∀ (xs : List Json) (x : Json) (fuel depth : Nat),
      (∀ y ∈ x :: xs, ReadsBack e indented y) →
      (write e indented depth x ++ writeItems e indented depth xs).length + 1 < fuel →
      readItems fuel (lead indented depth ++ (write e indented depth x
        ++ (writeItems e indented depth xs ++ (lead indented outer ++ ']' :: rest))))
        = some (x :: xs, rest)
  | _, _, 0, _, _, hfuel => by omega
  | [], x, fuel + 1, depth, hread, hfuel => by
    simp only [writeItems, List.append_nil] at hfuel
    have hx := hread x List.mem_cons_self fuel depth (lead indented outer ++ ']' :: rest)
      (by omega)
    rw [readItems, readValue_lead]
    simp only [writeItems, List.nil_append, hx, dropSpace_lead, Option.bind_eq_bind,
      Option.bind_some]
    rfl
  | y :: ys, x, fuel + 1, depth, hread, hfuel => by
    simp only [writeItems, List.length_append, List.length_cons] at hfuel
    have hys := readItems_write outer rest ys y fuel depth
      (fun z hz => hread z (List.mem_cons_of_mem _ hz))
      (by simp only [List.length_append]; omega)
    have hx := hread x List.mem_cons_self fuel depth
      (',' :: (lead indented depth ++ (write e indented depth y
        ++ (writeItems e indented depth ys ++ (lead indented outer ++ ']' :: rest)))))
      (by omega)
    rw [readItems, readValue_lead]
    simp only [writeItems, List.cons_append, List.append_assoc, hx, Option.bind_eq_bind,
      Option.bind_some]
    rw [dropSpace_cons rfl]
    simp only [hys, Option.bind_some]
    rfl

/-- A member is read up to its value; what comes after the value decides how to go on. -/
theorem readMembers_member {fuel : Nat} (depth : Nat) (k : String) {x : Json}
    (before : List (String × Json)) {s t : List Char} (h : readValue fuel s = some (x, t)) :
    readMembers (fuel + 1) before
        (lead indented depth ++ (quoted e k ++ (colon indented ++ s)))
      = match dropSpace t with
        | ',' :: u => readMembers fuel (put k x before) u
        | '\x7d' :: u => some (put k x before, u)
        | _ => none := by
  have hcolon : ∃ u, dropSpace (colon indented ++ s) = ':' :: u
      ∧ readValue fuel u = some (x, t) := by
    cases indented
    · exact ⟨s, rfl, h⟩
    · refine ⟨' ' :: s, rfl, ?_⟩
      rw [← h, ← readValue_dropSpace, ← readValue_dropSpace fuel s]
      rfl
  obtain ⟨u, hu, hvalue⟩ := hcolon
  rw [readMembers, dropSpace_lead]
  simp only [quoted, List.cons_append, List.append_assoc, List.nil_append]
  rw [dropSpace_cons rfl]
  simp only [readString_quoted, Option.bind_eq_bind, Option.bind_some, hu, hvalue]
  rfl

theorem readMembers_write (outer : Nat) (rest : List Char) :
    ∀ (ms before : List (String × Json)) (k : String) (x : Json) (fuel depth : Nat),
      ((before ++ (k, x) :: ms).map Prod.fst).Nodup →
      (∀ m ∈ (k, x) :: ms, ReadsBack e indented m.2) →
      (write e indented depth x ++ writeMembers e indented depth ms).length + 1 < fuel →
      readMembers fuel before (lead indented depth ++ (quoted e k ++ (colon indented
        ++ (write e indented depth x ++ (writeMembers e indented depth ms
          ++ (lead indented outer ++ '\x7d' :: rest))))))
        = some (before ++ (k, x) :: ms, rest)
  | _, _, _, _, 0, _, _, _, hfuel => by omega
  | ms, before, k, x, fuel + 1, depth, hkeys, hread, hfuel => by
    have hput : put k x before = before ++ [(k, x)] := by
      refine put_of_not_mem x fun hk => ?_
      rw [List.map_append, List.nodup_append] at hkeys
      exact hkeys.2.2 k hk k (by simp) rfl
    have hxlt : (write e indented depth x).length < fuel := by
      rw [List.length_append] at hfuel
      omega
    have hx := fun s => hread (k, x) List.mem_cons_self fuel depth s hxlt
    rw [readMembers_member depth k before (hx _)]
    cases ms with
    | nil =>
      simp only [writeMembers, List.nil_append]
      rw [dropSpace_lead, dropSpace_cons rfl, hput]
      rfl
    | cons m ms =>
      obtain ⟨l, y⟩ := m
      simp only [writeMembers, List.length_append, List.length_cons] at hfuel
      have hms := readMembers_write outer rest ms (before ++ [(k, x)]) l y fuel depth
        (by simpa using hkeys) (fun z hz => hread z (List.mem_cons_of_mem _ hz))
        (by rw [List.length_append]; omega)
      simp only [writeMembers, List.cons_append, List.append_assoc]
      rw [dropSpace_cons rfl, hput]
      simp only [hms, List.append_assoc, List.cons_append, List.nil_append]

namespace ReadsBack

/-- Reading takes one step for the value itself. -/
theorem of_succ {j : Json}
    (h : ∀ (fuel depth : Nat) (rest : List Char), (write e indented depth j).length ≤ fuel →
      readValue (fuel + 1) (write e indented depth j ++ rest) = some (j, rest)) :
    ReadsBack e indented j := by
  rintro (_ | fuel) depth rest hfuel
  · omega
  · exact h fuel depth rest (Nat.le_of_lt_succ hfuel)

theorem arr {xs : List Json} (items : ∀ x ∈ xs, IsPlain x)
    (hread : ∀ x ∈ xs, ReadsBack e indented x) : ReadsBack e indented (.arr xs) := by
  refine of_succ fun fuel depth rest hfuel => ?_
  cases xs with
  | nil => rfl
  | cons x xs =>
    obtain ⟨c, t, hwrite, hblank, hc⟩ :=
      write_eq_cons e indented (depth + 1) (items x List.mem_cons_self)
    simp only [write, List.length_cons, List.length_append] at hfuel
    have hitems := readItems_write depth rest xs x fuel (depth + 1) hread
      (by rw [List.length_append]; omega)
    simp only [write, List.cons_append, List.append_assoc, List.nil_append]
    rw [readValue_bracket, hitems]
    · rfl
    · intro u hu
      rw [dropSpace_lead, hwrite, List.cons_append, dropSpace_cons hblank] at hu
      cases hu
      exact hc rfl

theorem obj {ms : List (String × Json)} (keys : (ms.map Prod.fst).Nodup)
    (hread : ∀ m ∈ ms, ReadsBack e indented m.2) : ReadsBack e indented (.obj ms) := by
  refine of_succ fun fuel depth rest hfuel => ?_
  rcases ms with _ | ⟨⟨k, x⟩, ms⟩
  · rfl
  · simp only [write, List.length_cons, List.length_append] at hfuel
    have hmembers := readMembers_write depth rest ms [] k x fuel (depth + 1) keys hread
      (by rw [List.length_append]; omega)
    simp only [write, List.cons_append, List.append_assoc, List.nil_append]
    rw [readValue_brace, hmembers]
    · rfl
    · intro u hu
      rw [dropSpace_lead, quoted, List.cons_append, dropSpace_cons rfl] at hu
      cases hu

end ReadsBack

theorem IsPlain.readsBack {j : Json} (h : IsPlain j) : ReadsBack e indented j := by
  induction h with
  | null => exact .of_succ fun fuel depth rest _ => rfl
  | bool b =>
    refine .of_succ fun fuel depth rest _ => ?_
    cases b <;> rfl
  | str s =>
    refine .of_succ fun fuel depth rest _ => ?_
    simp only [write, quoted, List.cons_append, List.append_assoc, List.nil_append]
    rw [readValue, dropSpace_cons rfl]
    simp only [readString_quoted, Option.map_some]
  | arr items ih => exact .arr items ih
  | obj keys _ ih => exact .obj keys ih

/-- A plain value is read back from what is written of it, also with blanks after it. -/
theorem parse?_pretty (e : Escaping) {j : Json} (h : IsPlain j) {blanks : String}
    (hblanks : ∀ c ∈ blanks.toList, isSpace c) : parse? (j.pretty e ++ blanks) = some j := by
  have hlist : (j.pretty e ++ blanks).toList = write e true 0 j ++ blanks.toList := by
    simp [pretty]
  have hlength : (write e true 0 j).length < (j.pretty e ++ blanks).length + 1 := by
    rw [← String.length_toList, hlist, List.length_append]
    omega
  unfold parse?
  rw [hlist, h.readsBack _ 0 blanks.toList hlength]
  simp only [List.all_eq_true]
  rw [if_pos hblanks]

end PageAudit.Json
