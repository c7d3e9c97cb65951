import PageAudit.Proofs.Charset.Window

/-!
# Pages of ASCII

Most codecs keep a page whose bytes are all below `80`: they give these bytes the characters of
ASCII (`Codec.Keeps`). So what it declares does not matter to such a page, unless the label is
refused or names one of the others. Codecs that take two or four bytes for a character make too few
characters of a page that declares anything (`Codec.length_decode_le`), and so does Punycode, which
drops a dash or stops at a bracket (`Punycode.length_decode_lt`). A code page of a mainframe has
other characters for most of the bytes, and a provided codec may shift. These are the labels, all of
them, by which a page of ASCII is not read as it stands (`decode_eq_ascii_iff`).
-/

namespace PageAudit.Charset

variable {t : Tables} {c : Codec} {bs : List UInt8}

/-- The codec takes more than one byte at a time, whatever the bytes are. -/
def Codec.isWide : Codec → Bool
  | utf16 | utf16Little | utf16Big | utf32 | utf32Little | utf32Big => true
  | _ => false

/-- The codec has these bytes, which are below `80`, for the characters of ASCII. A provided codec
does so without fail if none of them shifts. -/
def Codec.Keeps (t : Tables) (bs : List UInt8) : Codec → Prop
  | utf8 | utf8Signed | ascii | latin1 => True
  | page p => ∀ b ∈ bs, p.charOf b = Char.ofNat b.toNat
  | provided p => (∀ b ∈ bs, p.isPlain b) ∨ t.decode p bs = bs.map fun b => Char.ofNat b.toNat
  | _ => False

/-- The codec has the characters of ASCII for all bytes below `80`, wherever they stand by
themselves. -/
def Codec.extendsAscii : Codec → Bool
  | utf8 | utf8Signed | ascii | latin1 => true
  | page p => p.low.isNone
  | provided p => p.shifts.isEmpty
  | _ => false

/-! ## Codecs that agree with ASCII -/

/-- Plain bytes are read one by one, and what follows them as if it stood alone. -/
theorem Tables.decode_append {p : Provided} (h : ∀ b ∈ bs, p.isPlain b) (rest : List UInt8) :
    t.decode p (bs ++ rest) = bs.map (fun b => Char.ofNat b.toNat) ++ t.decode p rest := by
  induction bs with
  | nil => rfl
  | cons b bs ih =>
    rw [List.forall_mem_cons] at h
    rw [List.cons_append, t.decode_cons p b _ h.1, ih h.2, List.map_cons, List.cons_append]

section Ascii

variable (h : ∀ b ∈ bs, b < 0x80)

include h

theorem asciiOf_of_ascii : asciiOf bs = bs.map fun b => Char.ofNat b.toNat := by
  rw [asciiOf, List.filter_eq_self.mpr fun b hb => decide_eq_true (h b hb)]

theorem Utf8.decode_of_ascii : Utf8.decode bs = asciiOf bs := by
  induction bs with
  | nil => rfl
  | cons b bs ih =>
    rw [List.forall_mem_cons] at h
    have hb : b.toNat < 0x80 := UInt8.lt_iff_toNat_lt.mp h.1
    rw [asciiOf_cons_of_lt hb, ← ih h.2, Utf8.decode, Utf8.decodeFrom, Utf8.lead_of_lt hb]
    rfl

/-- A codec that extends ASCII keeps every page of it. -/
theorem Codec.keeps_of_extendsAscii (hc : c.extendsAscii) : c.Keeps t bs := by
  cases c with
  | utf8 | utf8Signed | ascii | latin1 => trivial
  | page p =>
    intro b hb
    rw [CodePage.charOf, Option.isNone_iff_eq_none.mp hc]
    exact if_pos (h b hb)
  | provided p =>
    refine .inl fun b hb => ?_
    simp [Provided.isPlain, h b hb, List.isEmpty_iff.mp hc]
  | _ => cases hc

theorem map_charOf (high : List Char) : bs.map (charOf high) = asciiOf bs := by
  rw [asciiOf_of_ascii h]
  exact List.map_congr_left fun b hb => if_pos (h b hb)

/-- A byte order mark is no ASCII either. -/
theorem Utf8.decodeSigned_of_ascii : Utf8.decodeSigned bs = asciiOf bs := by
  unfold decodeSigned
  split
  · exact absurd (h 0xEF List.mem_cons_self) (by decide)
  · exact Utf8.decode_of_ascii h

theorem Codec.Keeps.decode (hc : c.Keeps t bs) : c.decode t bs = .ok (asciiOf bs) := by
  cases c with
  | utf8 => exact congrArg Except.ok (Utf8.decode_of_ascii h)
  | utf8Signed => exact congrArg Except.ok (Utf8.decodeSigned_of_ascii h)
  | ascii => exact congrArg Except.ok (map_charOf h [])
  | latin1 => exact congrArg Except.ok (asciiOf_of_ascii h).symm
  | page p =>
    rw [asciiOf_of_ascii h]
    exact congrArg Except.ok (List.map_congr_left hc)
  | provided p =>
    rw [asciiOf_of_ascii h]
    rcases hc with hplain | hkept
    · have hdecode := Tables.decode_append (t := t) hplain []
      rw [List.append_nil, t.decode_nil, List.append_nil] at hdecode
      exact congrArg Except.ok hdecode
    · exact congrArg Except.ok hkept
  | _ => exact hc.elim

end Ascii

/-! ## UTF-16 and UTF-32 -/

theorem Utf16.length_decode_le (o : Utf16.Order) (bs : List UInt8) :
    2 * (Utf16.decode o bs).length ≤ bs.length + 1 := by
  fun_induction Utf16.decode o bs <;> simp only [List.length_cons, List.length_nil] at * <;> omega

theorem Utf32.length_decode_le (o : Utf16.Order) (bs : List UInt8) :
    2 * (Utf32.decode o bs).length ≤ bs.length + 1 := by
  fun_induction Utf32.decode o bs with
  | case1 => exact Nat.zero_le _
  | case2 a b c d bs ih =>
    simp only [List.length_cons]
    omega
  | case3 bs hne =>
    have hlength : 0 < bs.length := List.length_pos_iff.mpr hne
    simp only [List.length_singleton]
    omega

theorem Utf16.length_decodeMarked_le (bs : List UInt8) :
    2 * (Utf16.decodeMarked bs).length ≤ bs.length + 1 := by
  unfold Utf16.decodeMarked
  split
  · exact (Utf16.length_decode_le .little _).trans (by simp)
  · exact (Utf16.length_decode_le .big _).trans (by simp)
  · exact Utf16.length_decode_le .little _

theorem Utf32.length_decodeMarked_le (bs : List UInt8) :
    2 * (Utf32.decodeMarked bs).length ≤ bs.length + 1 := by
  unfold Utf32.decodeMarked
  split
  · exact (Utf32.length_decode_le .little _).trans (by simp)
  · exact (Utf32.length_decode_le .big _).trans (by simp)
  · exact Utf32.length_decode_le .little _

/-- Two bytes make one character at most. -/
theorem Codec.length_decode_le {s : List Char} (hc : c.isWide) (h : c.decode t bs = .ok s) :
    2 * s.length ≤ bs.length + 1 := by
  cases c with
  | utf16 =>
    cases h
    exact Utf16.length_decodeMarked_le bs
  | utf16Little =>
    cases h
    exact Utf16.length_decode_le .little bs
  | utf16Big =>
    cases h
    exact Utf16.length_decode_le .big bs
  | utf32 =>
    cases h
    exact Utf32.length_decodeMarked_le bs
  | utf32Little =>
    cases h
    exact Utf32.length_decode_le .little bs
  | utf32Big =>
    cases h
    exact Utf32.length_decode_le .big bs
  | _ => cases hc

/-! ## Punycode -/

namespace Punycode

/-- A number takes up at least one digit. -/
theorem countP_number? {bias : Nat} :
    ∀ {bs rest : List UInt8} {place weight sum n : Nat},
      number? bias place weight sum bs = some (n, rest) →
      rest.countP (digit? · |>.isSome) < bs.countP (digit? · |>.isSome)
  | b :: bs, rest, place, weight, sum, n, h => by
    simp only [number?] at h
    split at h
    · cases h
    · rename_i d hd
      rw [List.countP_cons_of_pos (by simp [hd])]
      split at h
      · cases h
        exact Nat.lt_succ_self _
      · exact Nat.lt_succ_of_lt (countP_number? h)

/-- There is at most one character for each digit. -/
theorem length_insertAll_le (s : State) (text : List Char) (digits : List UInt8) :
    (insertAll s text digits).length ≤ text.length + digits.countP (digit? · |>.isSome) := by
  fun_induction insertAll s text digits with
  | case1 => exact Nat.le_add_right _ _
  | case2 s text digits delta rest hnumber s' ih =>
    have hdigits := countP_number? hnumber
    have hinsert : (text.insertIdx (s'.place - 1) (charOrReplacement s'.code)).length
        ≤ text.length + 1 := by
      rw [List.length_insertIdx]
      split <;> omega
    omega

/-- A dash is dropped, and a byte that is no digit ends the reading of digits. -/
theorem length_decode_lt (h : ∃ b ∈ bs, digit? b = none) : (decode bs).length < bs.length := by
  have hlength : (decode bs).length ≤ (head bs).length
      + (tail bs).countP (digit? · |>.isSome) := by
    simpa [decode] using length_insertAll_le {} ((head bs).map _) (tail bs)
  rcases head_tail bs with ⟨hhead, htail⟩ | hsplit
  · obtain ⟨b, hb, hdigit⟩ := h
    have hne : bs.countP (digit? · |>.isSome) ≠ bs.length := fun heq => by
      simpa [hdigit] using List.countP_eq_length.mp heq b hb
    have hle := List.countP_le_length (p := (digit? · |>.isSome)) (l := bs)
    rw [hhead, htail, List.length_nil] at hlength
    omega
  · have hle := List.countP_le_length (p := (digit? · |>.isSome)) (l := tail bs)
    have hbytes : bs.length = (head bs).length + ((tail bs).length + 1) := by
      rw [← List.length_cons (a := dash), ← List.length_append, ← hsplit]
    omega

end Punycode

/-! ## Pages -/

theorem Declares.lt_length {s l : List Char} (h : Declares s (some l)) : 6 < s.length := by
  cases h with
  | byAttribute _ _ h =>
    have hroom := h.inMeta.room
    have hlt := h.names.lt_length (by decide)
    omega
  | byContent _ _ _ _ h =>
    have hroom := h.inMeta.room
    have hlt := h.value.content.lt_length (by decide)
    omega

theorem InMeta.bracket_mem {s : List Char} {i j : Nat} (h : InMeta s i j) : '<' ∈ s := by
  obtain ⟨c, hc, hlower⟩ := h.opens.getElem? (c := '<') (n := 0) rfl
  have hclass := apply_toLower (p := (· == '<')) (by decide) c
  have heq : c = '<' := by simpa [hlower] using hclass
  exact heq ▸ List.mem_of_getElem? hc

theorem Declares.bracket_mem {s l : List Char} (h : Declares s (some l)) : '<' ∈ s := by
  cases h with
  | byAttribute _ _ h => exact h.inMeta.bracket_mem
  | byContent _ _ _ _ h => exact h.inMeta.bracket_mem

/-- What declares no UTF-8 declares something, and that takes a few bytes, a bracket among them. -/
theorem of_detect_ne (h : detect bs ≠ "utf-8") : 6 < bs.length ∧ 0x3C ∈ bs := by
  obtain ⟨o, ho, -⟩ := exists_declares (headText bs)
  cases o with
  | none => exact absurd (detect_of_declares ho) h
  | some l =>
    have hlength : (headText bs).length ≤ bs.length :=
      (length_asciiOf_le _).trans (List.length_take_le' _ _)
    refine ⟨ho.lt_length.trans_le hlength, ?_⟩
    obtain ⟨b, hb, hchar⟩ := List.mem_map.mp ho.bracket_mem
    obtain ⟨hb, hascii⟩ := List.mem_filter.mp hb
    have hlt : b.toNat < 0x80 := UInt8.lt_iff_toNat_lt.mp (of_decide_eq_true hascii)
    have hbracket : b.toNat = '<'.toNat := by rw [← hchar, toNat_ofNat (.inl (by omega))]
    have heq : b = 0x3C := UInt8.toNat_inj.mp hbracket
    exact heq ▸ List.mem_of_mem_take hb

/-- A codec that does not keep a page of ASCII has other characters for it, if it has any. -/
theorem Codec.keeps_of_decode (h : ∀ b ∈ bs, b < 0x80) (hlong : 6 < bs.length)
    (hbracket : 0x3C ∈ bs) (hdecode : c.decode t bs = .ok (asciiOf bs)) : c.Keeps t bs := by
  rw [asciiOf_of_ascii h] at hdecode
  cases c with
  | utf8 | utf8Signed | ascii | latin1 => trivial
  | page p => exact List.map_inj_left.mp (Except.ok.inj hdecode)
  | provided p => exact .inr (Except.ok.inj hdecode)
  | punycode =>
    have hshort := Punycode.length_decode_lt ⟨0x3C, hbracket, by decide⟩
    simp only [decode] at hdecode
    split at hdecode
    · cases hdecode
    · rw [Except.ok.inj hdecode, List.length_map] at hshort
      exact absurd hshort (Nat.lt_irrefl _)
  | undefined | domainNames => cases hdecode
  | _ =>
    have hshort := length_decode_le rfl hdecode
    rw [List.length_map] at hshort
    omega

/-- A page of ASCII is decoded to its own characters if and only if the label that it declares is
not refused and its codec keeps the page. All codecs that extend ASCII do. -/
theorem decode_eq_ascii_iff (t : Tables) (h : ∀ b ∈ bs, b < 0x80) :
    ((∃ log, decode t bs = .ok ⟨.ofList (asciiOf bs), log⟩)
      ↔ ¬ IsRefused (detect bs) bs ∧ (codecFor (detect bs)).Keeps t bs) ∧
    ((codecFor (detect bs)).extendsAscii → (codecFor (detect bs)).Keeps t bs) := by
  refine ⟨⟨?_, ?_⟩, Codec.keeps_of_extendsAscii h⟩
  · rintro ⟨log, hdecode⟩
    have hrefused : ¬ IsRefused (detect bs) bs := by
      rw [← decodeAs_eq_error_iff t]
      rintro ⟨e, he⟩
      cases he.symm.trans hdecode
    refine ⟨hrefused, ?_⟩
    obtain ⟨s, log', hs, hdecode'⟩ := decodeAs_of_not_isRefused t hrefused
    rw [decode, hdecode', Except.ok.injEq, Decoded.mk.injEq, String.ofList_inj] at hdecode
    by_cases hutf8 : detect bs = "utf-8"
    · rw [hutf8, codecFor, lookup_utf8]
      trivial
    · obtain ⟨hlong, hbracket⟩ := of_detect_ne hutf8
      exact Codec.keeps_of_decode h hlong hbracket (hdecode.1 ▸ hs)
  · rintro ⟨hrefused, hkeeps⟩
    exact decodeAs_of_decode (fun hnull => hrefused (.inl hnull)) (hkeeps.decode h)

theorem decode_eq_ascii_koi8 :
    let bs := "<META CHARSET=koi8-r><p>Hi".toUTF8.toList
    (∀ b ∈ bs, b < 0x80) ∧ ∃ log, decode .bare bs = .ok ⟨.ofList (asciiOf bs), log⟩ := by
  intro bs
  have hascii : ∀ b ∈ bs, b < 0x80 := by decide +kernel
  have hlabel : detect bs = "koi8-r" := by decide +kernel
  have hextends : (codecFor (detect bs)).extendsAscii := by
    rw [hlabel]
    decide +kernel
  obtain ⟨hiff, hkeeps⟩ := decode_eq_ascii_iff .bare hascii
  have hrefused : ¬ IsRefused (detect bs) bs := by
    rw [isRefused_iff (t := .bare) (by rw [hlabel]; decide)]
    rintro ⟨f, hf⟩
    cases hf.symm.trans ((hkeeps hextends).decode hascii)
  exact ⟨hascii, hiff.mpr ⟨hrefused, hkeeps hextends⟩⟩

/-- A declaration that could be read as ASCII has the page taken for UTF-16. -/
theorem decode_ne_ascii_utf16 :
    let bs := "<meta charset=utf-16><p>Hi".toUTF8.toList
    (∀ b ∈ bs, b < 0x80) ∧ ∀ t, ¬ ∃ log, decode t bs = .ok ⟨.ofList (asciiOf bs), log⟩ := by
  intro bs
  have hlabel : detect bs = "utf-16" := by decide +kernel
  refine ⟨by decide +kernel, ?_⟩
  rintro t ⟨log, hdecode⟩
  have hcodec : decode t bs = .ok ⟨.ofList (Utf16.decodeMarked bs), []⟩ := by
    rw [decode, hlabel]
    rfl
  rw [hcodec, Except.ok.injEq, Decoded.mk.injEq, String.ofList_inj] at hdecode
  exact absurd hdecode.1 (by decide +kernel)

end PageAudit.Charset
