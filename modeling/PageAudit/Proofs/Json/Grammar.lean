import PageAudit.Proofs.Json.Quoted

/-!
# The grammar of JSON

A text is JSON if it is built as the grammar has it (`IsText`): a value, in which strings hold no
control character, quote or backslash but as an escape, numbers have no needless zero in front, and
the parts of arrays and objects are parted by commas. Blanks may stand around every value and around
the keys of an object.

Whatever value is written, in either layout and with either way of escaping, the text is JSON
(`isText_write`).
-/

namespace PageAudit.Json

/-- Nothing but blanks, of the four that there are, or nothing. -/
def IsBlanks (s : List Char) : Prop :=
  ∀ c ∈ s, isSpace c

/-- What may stand between the quotes of a string. -/
inductive IsBody : List Char → Prop where
  | nil : IsBody []
  | raw {c : Char} {s : List Char} (hcontrol : ' ' ≤ c) (hquote : c ≠ '"') (hslash : c ≠ '\\')
      (h : IsBody s) : IsBody (c :: s)
  | escape {c : Char} {s : List Char} (hc : c ∈ ['"', '\\', '/', 'b', 'f', 'n', 'r', 't'])
      (h : IsBody s) : IsBody ('\\' :: c :: s)
  | unit {ds s : List Char} (hlength : ds.length = 4) (hds : ∀ d ∈ ds, Text.isHexDigit d)
      (h : IsBody s) : IsBody ('\\' :: 'u' :: (ds ++ s))

/-- A string with its quotes. -/
inductive IsString : List Char → Prop where
  | quotes {s : List Char} (h : IsBody s) : IsString ('"' :: (s ++ ['"']))

/-- One digit or more. -/
def IsDigits (s : List Char) : Prop :=
  s ≠ [] ∧ ∀ c ∈ s, c.isDigit

/-- One digit or more, with a zero in front only if it stands alone. -/
def IsWhole (s : List Char) : Prop :=
  IsDigits s ∧ (s.head? = some '0' → s = ['0'])

/-- A point and digits, or nothing. -/
def IsFraction (s : List Char) : Prop :=
  s = [] ∨ ∃ ds, IsDigits ds ∧ s = '.' :: ds

/-- The mark of an exponent, a sign or none, and digits; or nothing. -/
def IsExponent (s : List Char) : Prop :=
  s = [] ∨ ∃ e ∈ ['e', 'E'], ∃ sign ∈ [[], ['-'], ['+']], ∃ ds, IsDigits ds ∧ s = e :: (sign ++ ds)

/-- A number. A minus sign is the only one that it may start with. -/
inductive IsNumber : List Char → Prop where
  | parts {sign whole fraction exponent : List Char} (hsign : sign ∈ [[], ['-']])
      (hwhole : IsWhole whole) (hfraction : IsFraction fraction)
      (hexponent : IsExponent exponent) : IsNumber (sign ++ (whole ++ (fraction ++ exponent)))

/-- One part or more, with commas between them. -/
inductive IsListed (p : List Char → Prop) : List Char → Prop where
  | last {s : List Char} (h : p s) : IsListed p s
  | cons {s t : List Char} (h : p s) (ht : IsListed p t) : IsListed p (s ++ ',' :: t)

/-- A key with blanks around it, a colon and a value. -/
inductive IsMember (p : List Char → Prop) : List Char → Prop where
  | colon {before key after value : List Char} (hbefore : IsBlanks before) (hkey : IsString key)
      (hafter : IsBlanks after) (hvalue : p value) :
      IsMember p (before ++ (key ++ (after ++ ':' :: value)))

/-- A value with blanks around it. -/
inductive IsText : List Char → Prop where
  | null : IsText "null".toList
  | true : IsText "true".toList
  | false : IsText "false".toList
  | number {s : List Char} (h : IsNumber s) : IsText s
  | string {s : List Char} (h : IsString s) : IsText s
  | noItems {s : List Char} (h : IsBlanks s) : IsText ('[' :: (s ++ [']']))
  | items {s : List Char} (h : IsListed IsText s) : IsText ('[' :: (s ++ [']']))
  | noMembers {s : List Char} (h : IsBlanks s) : IsText ('\x7b' :: (s ++ ['\x7d']))
  | members {s : List Char} (h : IsListed (IsMember IsText) s) : IsText ('\x7b' :: (s ++ ['\x7d']))
  | blanks {before s after : List Char} (hbefore : IsBlanks before) (h : IsText s)
      (hafter : IsBlanks after) : IsText (before ++ (s ++ after))

/-! ## Strings -/

theorem isBody_unitEscape (n : Nat) {s : List Char} (h : IsBody s) :
    IsBody (unitEscape n ++ s) := by
  have hdigit : ∀ m, Text.isHexDigit (Text.hexDigit (m % 16)) := fun m => by
    rw [Text.isHexDigit, Text.hexValue?_hexDigit _ (Nat.mod_lt m (by decide))]
    rfl
  have hall : ∀ d ∈ Text.hexDigits 4 n, Text.isHexDigit d := by
    simp only [hexDigits_four, List.mem_cons, List.not_mem_nil, or_false]
    rintro d (rfl | rfl | rfl | rfl) <;> exact hdigit _
  exact .unit (by rw [hexDigits_four]; rfl) hall h

theorem isBody_char (e : Escaping) (c : Char) {s : List Char} (h : IsBody s) :
    IsBody (e.char c ++ s) := by
  unfold Escaping.char
  split
  case h_8 =>
    split
    · rename_i hquote hslash _ _ _ _ _ hraw
      exact .raw (blank_le_of_isRaw hraw) hquote hslash h
    · simp only [charEscape]
      split
      · exact isBody_unitEscape _ h
      · rw [List.append_assoc]
        exact isBody_unitEscape _ (isBody_unitEscape _ h)
  all_goals exact .escape (by decide) h

theorem isString_quoted (e : Escaping) (s : String) : IsString (quoted e s) := by
  refine .quotes ?_
  induction s.toList with
  | nil => exact .nil
  | cons c cs ih => exact isBody_char e c ih

/-! ## Numbers -/

theorem isDigits_toString (n : Nat) : IsDigits (toString n).toList := by
  rw [Nat.toString_eq_ofList_toDigits, String.toList_ofList]
  exact ⟨Nat.toDigits_ne_nil, fun c hc => Nat.isDigit_of_mem_toDigits (by decide) (by decide) hc⟩

theorem head?_toDigits {n : Nat} (h : 0 < n) : (Nat.toDigits 10 n).head? ≠ some '0' := by
  have hdigit : ∀ m < 10, 0 < m → some (Nat.digitChar m) ≠ some '0' := by decide
  induction n using Nat.strongRecOn with
  | ind n ih =>
    by_cases hn : n < 10
    · rw [Nat.toDigits_of_lt_base hn]
      exact hdigit n hn h
    · have hfirst := ih (n / 10) (by omega) (by omega)
      rw [Nat.toDigits_of_base_le (by decide) (by omega)]
      cases hds : Nat.toDigits 10 (n / 10) with
      | nil => exact absurd hds Nat.toDigits_ne_nil
      | cons d ds => simpa [hds] using hfirst

theorem isWhole_toString (n : Nat) : IsWhole (toString n).toList := by
  refine ⟨isDigits_toString n, fun hhead => ?_⟩
  rw [Nat.toString_eq_ofList_toDigits, String.toList_ofList] at hhead ⊢
  rcases Nat.eq_zero_or_pos n with rfl | hn
  · exact Nat.toDigits_zero 10
  · exact absurd hhead (head?_toDigits hn)

/-- A whole number is a sign, if it is negative, and digits. -/
theorem toList_toString_int (n : Int) :
    ∃ sign ∈ [[], ['-']], (toString n).toList = sign ++ (toString n.natAbs).toList := by
  cases n with
  | ofNat n => exact ⟨[], by simp, rfl⟩
  | negSucc n =>
    refine ⟨['-'], by simp, ?_⟩
    rw [Int.natAbs_negSucc]
    exact String.toList_append

theorem isNumber_int (n : Int) : IsNumber (toString n).toList := by
  obtain ⟨sign, hsign, hn⟩ := toList_toString_int n
  rw [hn]
  simpa using IsNumber.parts hsign (isWhole_toString n.natAbs) (.inl rfl) (.inl rfl)

theorem isNumber_decimal (d : Decimal) : IsNumber d.text := by
  obtain ⟨sign, hsign, hn⟩ := toList_toString_int d.exponent
  have hexponent : IsExponent ('e' :: (toString d.exponent).toList) := by
    have hsign' : sign ∈ [[], ['-'], ['+']] := List.mem_append_left [['+']] hsign
    exact .inr ⟨'e', by simp, sign, hsign', _, isDigits_toString d.exponent.natAbs, by rw [hn]⟩
  have hminus : (if d.negative then ['-'] else []) ∈ [[], ['-']] := by
    split <;> simp
  simpa [Decimal.text] using
    IsNumber.parts hminus (isWhole_toString d.coefficient) (.inl rfl) hexponent

/-! ## Values -/

theorem isBlanks_nil : IsBlanks [] := by
  simp [IsBlanks]

theorem isBlanks_lead (indented : Bool) (depth : Nat) : IsBlanks (lead indented depth) := by
  intro c hc
  unfold lead at hc
  split at hc
  · rcases List.mem_cons.mp hc with rfl | hc
    · rfl
    · rw [List.eq_of_mem_replicate hc]
      rfl
  · simp at hc

variable {e : Escaping} {indented : Bool}

theorem isListed_writeItems (outer : Nat) :
    ∀ (xs : List Json) (x : Json) (depth : Nat),
      (∀ y ∈ x :: xs, IsText (write e indented depth y)) →
      IsListed IsText (lead indented depth ++ (write e indented depth x
        ++ (writeItems e indented depth xs ++ lead indented outer)))
  | [], x, depth, h =>
    .last (.blanks (isBlanks_lead _ _) (h x List.mem_cons_self) (isBlanks_lead _ _))
  | y :: ys, x, depth, h => by
    have hx : IsText (lead indented depth ++ (write e indented depth x ++ [])) :=
      .blanks (isBlanks_lead _ _) (h x List.mem_cons_self) isBlanks_nil
    have hys := isListed_writeItems outer ys y depth fun z hz => h z (List.mem_cons_of_mem _ hz)
    simpa [writeItems] using IsListed.cons hx hys

theorem isMember_write (depth : Nat) (k : String) {x : Json}
    (hx : IsText (write e indented depth x)) {after : List Char} (hafter : IsBlanks after) :
    IsMember IsText (lead indented depth ++ (quoted e k ++ (colon indented
      ++ (write e indented depth x ++ after)))) := by
  have hblank : IsBlanks [' '] := by simp [IsBlanks, isSpace]
  have hvalue : ∀ before, IsBlanks before →
      IsText (before ++ (write e indented depth x ++ after)) :=
    fun before hbefore => .blanks hbefore hx hafter
  cases indented with
  | true =>
    exact .colon (isBlanks_lead true depth) (isString_quoted e k) isBlanks_nil (hvalue [' '] hblank)
  | false =>
    exact .colon (isBlanks_lead false depth) (isString_quoted e k) isBlanks_nil
      (hvalue [] isBlanks_nil)

theorem isListed_writeMembers (outer : Nat) :
    ∀ (ms : List (String × Json)) (k : String) (x : Json) (depth : Nat),
      (∀ m ∈ (k, x) :: ms, IsText (write e indented depth m.2)) →
      IsListed (IsMember IsText) (lead indented depth ++ (quoted e k ++ (colon indented
        ++ (write e indented depth x ++ (writeMembers e indented depth ms
          ++ lead indented outer)))))
  | [], k, x, depth, h =>
    .last (isMember_write depth k (h (k, x) List.mem_cons_self) (isBlanks_lead _ _))
  | (l, y) :: ms, k, x, depth, h => by
    have hx := isMember_write depth k (h (k, x) List.mem_cons_self) isBlanks_nil
    have hms := isListed_writeMembers outer ms l y depth
      fun m hm => h m (List.mem_cons_of_mem _ hm)
    simpa [writeMembers] using IsListed.cons hx hms

mutual

theorem isText_write : ∀ (j : Json) (depth : Nat), IsText (write e indented depth j)
  | .null, _ => .null
  | .bool true, _ => .true
  | .bool false, _ => .false
  | .int n, _ => .number (isNumber_int n)
  | .decimal d, _ => .number (isNumber_decimal d)
  | .str s, _ => .string (isString_quoted e s)
  | .arr [], _ => .noItems isBlanks_nil
  | .arr (x :: xs), depth => by
    have hitems : ∀ y ∈ x :: xs, IsText (write e indented (depth + 1) y) := fun y hy =>
      isText_write_item (x :: xs) y hy (depth + 1)
    simpa [write] using IsText.items (isListed_writeItems depth xs x (depth + 1) hitems)
  | .obj [], _ => .noMembers isBlanks_nil
  | .obj ((k, x) :: ms), depth => by
    have hmembers : ∀ m ∈ (k, x) :: ms, IsText (write e indented (depth + 1) m.2) := fun m hm =>
      isText_write_member ((k, x) :: ms) m hm (depth + 1)
    simpa [write] using IsText.members (isListed_writeMembers depth ms k x (depth + 1) hmembers)

theorem isText_write_item :
    ∀ (xs : List Json), ∀ x ∈ xs, ∀ depth, IsText (write e indented depth x)
  | y :: ys, x, hx, depth => by
    rcases List.mem_cons.mp hx with heq | hx
    · rw [heq]
      exact isText_write y depth
    · exact isText_write_item ys x hx depth

theorem isText_write_member :
    ∀ (ms : List (String × Json)), ∀ m ∈ ms, ∀ depth, IsText (write e indented depth m.2)
  | (_, y) :: ms, m, hm, depth => by
    rcases List.mem_cons.mp hm with heq | hm
    · rw [heq]
      exact isText_write y depth
    · exact isText_write_member ms m hm depth

end

end PageAudit.Json
