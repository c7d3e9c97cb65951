import PageAudit.Charset.Decoding

/-!
# Labels that are refused

A label that holds a null character decodes nothing. Of the codecs two decode nothing either, and
Punycode no bytes that have one beyond ASCII among their digits (`Codec.decode_eq_error_iff`). Each
of these three has one name and no alias, so a label is refused by what it normalizes to and in no
other way (`lookup_eq_some_iff`, `decodeAs_eq_error_iff`).

Every other label decodes any bytes, one that names no codec by way of UTF-8
(`decodeAs_of_unknown`), and what comes of it is what its codec makes of them
(`decodeAs_of_not_isRefused`).
-/

namespace PageAudit.Charset

variable {t : Tables} {c : Codec} {label : String} {bs : List UInt8}

/-! ## Codecs with one name -/

/-- The one name of a codec that may refuse bytes. -/
def Codec.soleName? : Codec → Option String
  | undefined => some "undefined"
  | domainNames => some "idna"
  | punycode => some "punycode"
  | _ => none

section SoleName

variable {name : String} (hc : c.soleName? = some name)

include hc

theorem names_of_mem {names : List String} (h : (names, c) ∈ namedCodecs) : names = [name] := by
  cases c <;> cases hc <;> simpa [namedCodecs, Provided.named] using h

theorem lookupName?_eq_some_iff {s : String} : lookupName? s = some c ↔ s = name := by
  constructor
  · intro h
    obtain ⟨⟨names, found⟩, hfind, rfl⟩ := Option.map_eq_some_iff.mp h
    have hnames := names_of_mem hc (List.mem_of_find?_eq_some hfind)
    simpa [hnames] using List.find?_some hfind
  · rintro rfl
    cases c <;> cases hc <;> rfl

theorem lookupAlias?_ne_some (s : String) : lookupAlias? s ≠ some c := by
  intro h
  obtain ⟨⟨names, found⟩, hfind, rfl⟩ := Option.map_eq_some_iff.mp h
  have hnames := names_of_mem hc (List.mem_of_find?_eq_some hfind)
  simpa [hnames] using List.find?_some hfind

theorem lookup_eq_some_iff : lookup label = some c ↔ normalize label = name := by
  rw [← lookupName?_eq_some_iff hc]
  rcases hname : lookupName? (normalize label) with _ | found
  · simp only [lookup, hname, reduceCtorEq, iff_false]
    split
    · exact lookupAlias?_ne_some hc _
    · exact nofun
  · simp only [lookup, hname]

end SoleName

theorem lookup_eq_none (hname : lookupName? (normalize label) = none)
    (hpoint : '.' ∉ (normalize label).toList) : lookup label = none := by
  simp [lookup, hname, hpoint]

/-! ## Bytes that a codec refuses -/

namespace Punycode

/-- A byte that is no ASCII stands among the digits, with no dash behind it. -/
def HasForeignDigit (bs : List UInt8) : Prop :=
  ∃ front b back, bs = front ++ b :: back ∧ 0x80 ≤ b ∧ dash ∉ back

theorem dash_notMem_tail (bs : List UInt8) : dash ∉ tail bs := by
  intro h
  have hrun := List.all_eq_true.mp
    (List.all_takeWhile (p := (· != dash)) (l := bs.reverse)) dash (List.mem_reverse.mp h)
  simp at hrun

/-- Without a dash all bytes are digits; else the last dash parts the bytes. -/
theorem head_tail (bs : List UInt8) :
    head bs = [] ∧ tail bs = bs ∨ bs = head bs ++ dash :: tail bs := by
  have hsplit := List.takeWhile_append_dropWhile (p := (· != dash)) (l := bs.reverse)
  have hfirst := List.head?_dropWhile_not (· != dash) bs.reverse
  rcases hrest : bs.reverse.dropWhile (· != dash) with _ | ⟨d, rest⟩
  · rw [hrest, List.append_nil] at hsplit
    exact .inl ⟨by simp [head, hrest], by simp [tail, hsplit]⟩
  · have hd : d = dash := by simpa [hrest] using hfirst
    refine .inr ?_
    rw [← List.reverse_inj, ← hsplit]
    simp [head, tail, hrest, hd]

theorem tail_suffix (bs : List UInt8) : tail bs <:+ bs := by
  rw [← List.reverse_prefix, tail, List.reverse_reverse]
  exact List.takeWhile_prefix _

/-- No run of bytes without a dash reaches further back from the end. -/
theorem suffix_tail {s : List UInt8} (h : dash ∉ s) (front : List UInt8) :
    s <:+ tail (front ++ s) := by
  have hrun : ∀ b ∈ s.reverse, b != dash := fun b hb =>
    bne_iff_ne.mpr fun heq => h (heq ▸ List.mem_reverse.mp hb)
  rw [tail, List.reverse_append, List.takeWhile_append_of_pos hrun, List.reverse_append,
    List.reverse_reverse]
  exact List.suffix_append _ s

theorem exists_mem_tail_iff : (∃ b ∈ tail bs, 0x80 ≤ b) ↔ HasForeignDigit bs := by
  constructor
  · rintro ⟨b, hb, hwide⟩
    obtain ⟨front, back, htail⟩ := List.append_of_mem hb
    obtain ⟨before, hbs⟩ := tail_suffix bs
    have hback : dash ∉ back := fun hmem => dash_notMem_tail bs (by simp [htail, hmem])
    exact ⟨before ++ front, b, back, by rw [List.append_assoc, ← htail, hbs], hwide, hback⟩
  · rintro ⟨front, b, back, rfl, hwide, hback⟩
    have hdash : dash ∉ b :: back := by
      rw [List.mem_cons, not_or]
      exact ⟨fun heq => absurd (heq ▸ hwide) (by decide), hback⟩
    exact ⟨b, (suffix_tail hdash front).subset List.mem_cons_self, hwide⟩

end Punycode

/-- These are the bytes that no codec replaces. -/
theorem Codec.decode_eq_error_iff : (∃ f, c.decode t bs = .error f) ↔
    c = .undefined ∨ c = .domainNames ∨ c = .punycode ∧ Punycode.HasForeignDigit bs := by
  rw [← Punycode.exists_mem_tail_iff]
  cases c with
  | punycode =>
    have hfind : ((Punycode.tail bs).findIdx? (0x80 ≤ ·)).isSome ↔
        ∃ b ∈ Punycode.tail bs, 0x80 ≤ b := by
      simp [List.findIdx?_isSome]
    rw [← hfind]
    rcases hidx : (Punycode.tail bs).findIdx? (0x80 ≤ ·) with _ | i <;> simp [decode, hidx]
  | _ => simp [decode]

/-! ## Labels -/

/-- The codec by which a label has a page decoded, which is UTF-8 for one that names none. -/
def codecFor (label : String) : Codec :=
  (lookup label).getD .utf8

/-- Nothing is decoded of these bytes by such a label. -/
def IsRefused (label : String) (bs : List UInt8) : Prop :=
  '\x00' ∈ label.toList ∨ normalize label = "undefined" ∨ normalize label = "idna" ∨
    normalize label = "punycode" ∧ Punycode.HasForeignDigit bs

theorem codecFor_eq_iff {name : String} (hc : c.soleName? = some name) :
    codecFor label = c ↔ normalize label = name := by
  have hne : Codec.utf8 ≠ c := by
    rintro rfl
    cases hc
  rw [← lookup_eq_some_iff hc, codecFor]
  rcases lookup label with _ | found <;> simp [hne]

/-- A label without a null character is refused if its codec refuses the bytes. -/
theorem isRefused_iff (hnull : '\x00' ∉ label.toList) :
    IsRefused label bs ↔ ∃ f, (codecFor label).decode t bs = .error f := by
  rw [Codec.decode_eq_error_iff, codecFor_eq_iff rfl, codecFor_eq_iff rfl, codecFor_eq_iff rfl,
    IsRefused, or_iff_right hnull]

theorem decodeAs_of_unknown (hnull : '\x00' ∉ label.toList) (h : lookup label = none) :
    decodeAs t label bs = .ok ⟨.ofList (Utf8.decode bs), [unknownLabel label]⟩ := by
  simp [decodeAs, hnull, h]

/-- What comes of bytes is what the codec of their label makes of them. -/
theorem decodeAs_of_decode {s : List Char} (hnull : '\x00' ∉ label.toList)
    (h : (codecFor label).decode t bs = .ok s) :
    ∃ log, decodeAs t label bs = .ok ⟨.ofList s, log⟩ := by
  rcases hlookup : lookup label with _ | c
  · rw [codecFor, hlookup, Option.getD_none, Codec.decode, Except.ok.injEq] at h
    exact ⟨_, h ▸ decodeAs_of_unknown hnull hlookup⟩
  · rw [codecFor, hlookup, Option.getD_some] at h
    exact ⟨[], by simp [decodeAs, hnull, hlookup, h]⟩

theorem decodeAs_of_fault {f : Fault} (hnull : '\x00' ∉ label.toList)
    (h : (codecFor label).decode t bs = .error f) :
    decodeAs t label bs = .error (.refused label f) := by
  rcases hlookup : lookup label with _ | c
  · rw [codecFor, hlookup] at h
    cases h
  · rw [codecFor, hlookup, Option.getD_some] at h
    simp [decodeAs, hnull, hlookup, h]

theorem decodeAs_of_not_isRefused (t : Tables) (h : ¬ IsRefused label bs) :
    ∃ s log, (codecFor label).decode t bs = .ok s ∧ decodeAs t label bs = .ok ⟨.ofList s, log⟩ := by
  have hnull : '\x00' ∉ label.toList := fun hmem => h (.inl hmem)
  rcases hdecode : (codecFor label).decode t bs with f | s
  · exact absurd ((isRefused_iff hnull).mpr ⟨f, hdecode⟩) h
  · obtain ⟨log, hlog⟩ := decodeAs_of_decode hnull hdecode
    exact ⟨s, log, rfl, hlog⟩

/-- These are the bytes of which nothing is decoded. -/
theorem decodeAs_eq_error_iff (t : Tables) (label : String) (bs : List UInt8) :
    (∃ e, decodeAs t label bs = .error e) ↔ IsRefused label bs := by
  constructor
  · rintro ⟨e, he⟩
    refine Classical.byContradiction fun h => ?_
    obtain ⟨s, log, -, hdecode⟩ := decodeAs_of_not_isRefused t h
    cases he.symm.trans hdecode
  · intro h
    by_cases hnull : '\x00' ∈ label.toList
    · exact ⟨.nullInLabel, by simp [decodeAs, hnull]⟩
    · obtain ⟨f, hf⟩ := (isRefused_iff (t := t) hnull).mp h
      exact ⟨_, decodeAs_of_fault hnull hf⟩

theorem not_isRefused_of_unknown (hnull : '\x00' ∉ label.toList) (h : lookup label = none) :
    ¬ IsRefused label bs := by
  rw [isRefused_iff (t := .bare) hnull, codecFor, h]
  exact nofun

end PageAudit.Charset
