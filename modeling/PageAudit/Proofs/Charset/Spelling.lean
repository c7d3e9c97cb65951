import PageAudit.Proofs.Charset.Ascii
import PageAudit.Proofs.Charset.Window

/-!
# Labels of one codec

Many labels name one codec, since the lookup takes no notice of letter case or of which punctuation
there is, and knows aliases (`Names`). What a label is read as instead, as browsers do, goes by how
it is spelled but for letter case (`IsRemapped`). So each label of a codec is read as that codec or
as one other (`Codec.instead`), and two of them have a page decoded by the same codec if and only if
both are remapped or neither is (`decode_spellings`).

Where they do, the texts differ only in what is made of the label, if the text falls apart around it
(`Codec.FallsApart`). It does so in UTF-8, where a byte of ASCII is never taken up by what stands
before it, in a code page, and in a provided codec that is through with what stands before the
label. It does not where bytes are taken two or four at a time, or all at once as in Punycode.
-/

namespace PageAudit.Charset

variable {t : Tables} {l l' : List Char} {c : Codec} {before after : List UInt8}

/-! ## Labels that name a codec -/

/-- The label is looked up, and names this codec. -/
def Names (l : List Char) (c : Codec) : Prop :=
  '\x00' ∉ l ∧ lookup (.ofList l) = some c

/-- The label is one of those that are read as something else, in whatever letter case. -/
def IsRemapped (l : List Char) : Prop :=
  String.ofList (l.map Char.toLower) ∈ remapped.map Prod.fst

instance : DecidablePred IsRemapped := fun l =>
  inferInstanceAs (Decidable (String.ofList (l.map Char.toLower) ∈ remapped.map Prod.fst))

/-- What a label of the codec is read as if it is remapped. -/
def Codec.remappedTo? : Codec → Option String
  | latin1 | ascii => some "windows-1252"
  | page p =>
    if p.names.contains "iso8859_9" then some "windows-1254"
    else if p.names.contains "iso8859_11" then some "windows-874"
    else none
  | _ => none

/-- The codec that is taken instead by a label that is remapped. None knows `windows-874`, so for
that it is UTF-8. -/
def Codec.instead (c : Codec) : Codec :=
  c.remappedTo?.elim c codecFor

theorem toLower_toLower (c : Char) : c.toLower.toLower = c.toLower := by
  rcases toLower_cases c with ⟨n, hn, rfl⟩ | ⟨heq, -⟩
  · exact (by decide : ∀ n < 26, (Char.ofNat (65 + n)).toLower.toLower
      = (Char.ofNat (65 + n)).toLower) n hn
  · rw [heq, heq]

theorem normalizeFrom_map_toLower (started gap : Bool) (l : List Char) :
    normalizeFrom started gap (l.map Char.toLower) = normalizeFrom started gap l := by
  have hclass := apply_toLower (p := fun c => c.isAlphanum || c == '.') (by decide)
  induction l generalizing started gap with
  | nil => rfl
  | cons c l ih => simp only [List.map_cons, normalizeFrom, hclass, toLower_toLower, ih]

theorem lookup_map_toLower (l : List Char) :
    lookup (.ofList (l.map Char.toLower)) = lookup (.ofList l) := by
  simp only [lookup, normalize, String.toList_ofList, normalizeFrom_map_toLower]

theorem Names.map_toLower (h : Names l c) : Names (l.map Char.toLower) c := by
  have hclass := apply_toLower (p := (· == '\x00')) (by decide)
  refine ⟨fun hmem => ?_, by rw [lookup_map_toLower, h.2]⟩
  obtain ⟨d, hd, hnull⟩ := List.mem_map.mp hmem
  have hnull' : d = '\x00' := by simpa [hnull] using (hclass d).symm
  exact h.1 (hnull' ▸ hd)

theorem exists_of_remapped {label : String} (h : label ∈ remapped.map Prod.fst) :
    ∃ e ∈ remapped, e.1 = label ∧ remap label = e.2 := by
  rw [remap]
  rcases hfound : remapped.lookup label with _ | name
  · obtain ⟨e, he, rfl⟩ := List.mem_map.mp h
    simpa using List.lookup_eq_none_iff.mp hfound e he
  · obtain ⟨first, rest, heq, -⟩ := List.lookup_eq_some_iff.mp hfound
    exact ⟨(label, name), by simp [heq], rfl, rfl⟩

theorem remap_of_notMem {label : String} (h : label ∉ remapped.map Prod.fst) :
    remap label = label := by
  rw [remap, List.lookup_eq_none_iff.mpr fun e he => ?_]
  · rfl
  · have hne : label ≠ e.1 := fun heq => h (heq ▸ List.mem_map_of_mem he)
    simpa using hne

theorem codecFor_of_lookup {label : String} (h : lookup label = some c) : codecFor label = c := by
  rw [codecFor, h, Option.getD_some]

theorem codecFor_remapped {e : String × String} (he : e ∈ remapped)
    (h : lookup e.1 = some c) : codecFor e.2 = c.instead ∧ c.instead ≠ c := by
  have hcheck : ∀ e ∈ remapped, lookup e.1 ≠ none →
      (codecFor e.1).remappedTo? = some e.2 ∧ codecFor e.2 ≠ codecFor e.1 := by
    decide +kernel
  obtain ⟨hto, hne⟩ := codecFor_of_lookup h ▸ hcheck e he (by rw [h]; exact nofun)
  have hinstead : c.instead = codecFor e.2 := by rw [Codec.instead, hto, Option.elim_some]
  exact ⟨hinstead.symm, hinstead ▸ hne⟩

theorem null_notMem_remapped {e : String × String} (he : e ∈ remapped) : '\x00' ∉ e.2.toList := by
  have hcheck : ∀ e ∈ remapped, '\x00' ∉ e.2.toList := by decide +kernel
  exact hcheck e he

/-- What a label of a codec is read as. -/
theorem Names.codecFor_readAs (h : Names l c) :
    codecFor (readAs l) = if IsRemapped l then c.instead else c := by
  split
  · rename_i hremapped
    obtain ⟨e, he, hlower, hread⟩ := exists_of_remapped hremapped
    rw [readAs, hread]
    exact (codecFor_remapped he (hlower ▸ h.map_toLower.2)).1
  · rename_i hremapped
    rw [readAs, remap_of_notMem hremapped]
    exact codecFor_of_lookup h.map_toLower.2

theorem Names.null_notMem_readAs (h : Names l c) : '\x00' ∉ (readAs l).toList := by
  by_cases hremapped : IsRemapped l
  · obtain ⟨e, he, -, hread⟩ := exists_of_remapped hremapped
    rw [readAs, hread]
    exact null_notMem_remapped he
  · rw [readAs, remap_of_notMem hremapped, String.toList_ofList]
    exact h.map_toLower.1

theorem Names.instead_ne (h : Names l c) (hremapped : IsRemapped l) : c.instead ≠ c := by
  obtain ⟨e, he, hlower, -⟩ := exists_of_remapped hremapped
  exact (codecFor_remapped he (hlower ▸ h.map_toLower.2)).2

/-! ## Around a label -/

theorem Utf8.decodeFrom_of_accepts {p : Utf8.Pending} {b : UInt8} (h : p.accepts b)
    (bs : List UInt8) : decodeFrom (some p) (b :: bs)
      = if p.left = 1 then Char.ofNat (p.bitsWith b) :: decodeFrom none bs
        else decodeFrom (some ⟨p.bitsWith b, p.left - 1, 0x80, 0xBF⟩) bs := by
  rw [decodeFrom, if_pos h]

/-- A byte of ASCII is read afresh wherever the decoder stands, and there what has begun ends as it
ends with the bytes. -/
theorem Utf8.decodeFrom_append_cons {b : UInt8} (hb : b.toNat < 0x80) (after : List UInt8) :
    ∀ (bs : List UInt8) (o : Option Pending), (∀ p ∈ o, p.IsSound) →
      decodeFrom o (bs ++ b :: after) = decodeFrom o bs ++ decodeFrom none (b :: after)
  | [], none, _ => rfl
  | [], some p, hp => by
    have hnot : ¬ p.accepts b := fun hacc => by
      have := (hp p rfl).toNat_ge hacc
      omega
    rw [List.nil_append, decodeFrom_of_not_accepts hnot]
    rfl
  | d :: bs, o, ho => by
    have hrest := decodeFrom_append_cons hb after bs
    have hfresh : decodeFrom none (d :: (bs ++ b :: after))
        = decodeFrom none (d :: bs) ++ decodeFrom none (b :: after) := by
      by_cases hd : d.toNat < 0x80
      · rw [decodeFrom, decodeFrom, lead_of_lt hd]
        simp only [hrest none (by simp), List.cons_append]
      · rcases lead_of_le (Nat.not_lt.mp hd) with hlead | ⟨p, hlead, hp⟩
        · rw [decodeFrom, decodeFrom, hlead]
          simp only [hrest none (by simp), List.cons_append]
        · rw [decodeFrom, decodeFrom, hlead]
          exact hrest (some p) (by simpa)
    rcases o with _ | p
    · exact hfresh
    · have hp : p.IsSound := ho p rfl
      by_cases hd : p.accepts d
      · rw [List.cons_append, decodeFrom_of_accepts hd, decodeFrom_of_accepts hd]
        split
        · rw [hrest none (by simp), List.cons_append]
        · exact hrest (some _) (by simpa using hp.next hd ‹_›)
      · rw [List.cons_append, decodeFrom_of_not_accepts hd, decodeFrom_of_not_accepts hd, hfresh,
          List.cons_append]

/-- A page with a text of ASCII in one place. -/
def holding (before : List UInt8) (l : List Char) (after : List UInt8) : List UInt8 :=
  before ++ (bytesOf l ++ after)

/-- The codec is through with these bytes: whatever follows is decoded by itself. -/
def Tables.IsWhole (t : Tables) (p : Provided) (bs : List UInt8) : Prop :=
  ∀ rest, t.decode p (bs ++ rest) = t.decode p bs ++ t.decode p rest

/-- What the codec makes of a page falls apart around a text of ASCII that stands behind these
bytes. A provided codec must be through with some of the bytes, and the rest of them, like the text,
must be plain. -/
def Codec.FallsApart (t : Tables) (before : List UInt8) (l : List Char) : Codec → Prop
  | utf8 | utf8Signed | ascii | latin1 | page _ => True
  | provided p => ∃ done plain, before = done ++ plain ∧ t.IsWhole p done ∧
      ∀ b ∈ plain ++ bytesOf l, p.isPlain b
  | _ => False

/-- In a provided codec all of the bytes before the text are decoded by themselves then. -/
theorem Tables.decode_holding {p : Provided} (h : (Codec.provided p).FallsApart t before l)
    (after : List UInt8) : t.decode p (holding before l after)
      = t.decode p before ++ (t.decode p (bytesOf l) ++ t.decode p after) := by
  obtain ⟨done, plain, rfl, hdone, hplain⟩ := h
  rw [List.forall_mem_append] at hplain
  have hsplit (bs rest : List UInt8) (hbs : ∀ b ∈ bs, p.isPlain b) :
      t.decode p (bs ++ rest) = t.decode p bs ++ t.decode p rest := by
    rw [decode_append hbs rest, ← List.append_nil bs, decode_append hbs, t.decode_nil,
      List.append_nil, List.append_nil]
  rw [holding, List.append_assoc, hdone, hsplit _ _ hplain.1, hsplit _ _ hplain.2, hdone,
    List.append_assoc]

theorem prefix_of_prefix_append_cons {α : Type} {p s t : List α} {a : α} (ha : a ∉ p)
    (h : p <+: s ++ a :: t) : p <+: s := by
  induction s generalizing p with
  | nil =>
    rcases p with _ | ⟨b, p⟩
    · exact List.nil_prefix
    · exact absurd (List.cons_prefix_cons.mp h).1 fun heq => ha (heq ▸ List.mem_cons_self)
  | cons d s ih =>
    rcases p with _ | ⟨b, p⟩
    · exact List.nil_prefix
    · obtain ⟨rfl, hp⟩ := List.cons_prefix_cons.mp h
      exact List.cons_prefix_cons.mpr ⟨rfl, ih (fun hmem => ha (List.mem_cons_of_mem b hmem)) hp⟩

theorem Utf8.decodeSigned_of_unmarked {bs : List UInt8} (h : ¬ [0xEF, 0xBB, 0xBF] <+: bs) :
    Utf8.decodeSigned bs = Utf8.decode bs := by
  rw [decodeSigned]
  rintro rest rfl
  exact h (List.prefix_append _ rest)

theorem toNat_toUInt8 {c : Char} (h : c.toNat < 0x80) : c.toNat.toUInt8.toNat = c.toNat :=
  UInt8.toNat_ofNat_of_lt' (h.trans (by decide))

section Around

variable (hascii : ∀ c ∈ l, c.toNat < 0x80)

include hascii

theorem Utf8.decode_bytesOf_append (after : List UInt8) :
    Utf8.decode (bytesOf l ++ after) = l ++ Utf8.decode after := by
  induction l with
  | nil => rfl
  | cons c l ih =>
    rw [List.forall_mem_cons] at hascii
    have hbyte := toNat_toUInt8 hascii.1
    have hlead : lead c.toNat.toUInt8 = .char c := by
      rw [lead_of_lt (hbyte.trans_lt hascii.1), hbyte, Char.ofNat_toNat]
    rw [List.cons_append, ← ih hascii.2, Utf8.decode, bytesOf, List.map_cons, List.cons_append,
      decodeFrom, hlead]
    rfl

theorem lt_of_mem_bytesOf : ∀ b ∈ bytesOf l, b < 0x80 := by
  intro b hb
  obtain ⟨c, hc, rfl⟩ := List.mem_map.mp hb
  exact UInt8.lt_iff_toNat_lt.mpr ((toNat_toUInt8 (hascii c hc)).trans_lt (hascii c hc))

variable (hne : l ≠ [])

include hne

theorem Utf8.decode_holding (before after : List UInt8) :
    Utf8.decode (holding before l after) = Utf8.decode before ++ (l ++ Utf8.decode after) := by
  rw [← decode_bytesOf_append hascii, holding]
  obtain ⟨c, s, rfl⟩ := List.exists_cons_of_ne_nil hne
  have hc := hascii c List.mem_cons_self
  exact decodeFrom_append_cons ((toNat_toUInt8 hc).trans_lt hc) _ before none (by simp)

/-- A byte order mark at the start stands before the text, or there is none. -/
theorem Utf8.decodeSigned_holding (before after : List UInt8) :
    Utf8.decodeSigned (holding before l after)
      = Utf8.decodeSigned before ++ (l ++ Utf8.decode after) := by
  by_cases hmark : [0xEF, 0xBB, 0xBF] <+: before
  · obtain ⟨rest, rfl⟩ := hmark
    exact decode_holding hascii hne rest after
  · have hpage : ¬ [0xEF, 0xBB, 0xBF] <+: holding before l after := by
      obtain ⟨c, s, rfl⟩ := List.exists_cons_of_ne_nil hne
      have hc := hascii c List.mem_cons_self
      have hbyte : c.toNat.toUInt8.toNat < 0x80 := (toNat_toUInt8 hc).trans_lt hc
      have hhigh : ∀ b ∈ ([0xEF, 0xBB, 0xBF] : List UInt8), ¬ b.toNat < 0x80 := by simp
      refine fun h => hmark (prefix_of_prefix_append_cons (fun hmem => ?_) h)
      exact absurd hbyte (hhigh _ hmem)
    rw [decodeSigned_of_unmarked hpage, decodeSigned_of_unmarked hmark]
    exact decode_holding hascii hne before after

end Around

/-- What is made of the bytes before and behind a text of ASCII does not go by the text. -/
theorem Codec.exists_decode_holding (t : Tables) (c : Codec) (before after : List UInt8) :
    ∃ front back, ∀ l : List Char, (∀ c ∈ l, c.toNat < 0x80) → l ≠ [] → c.FallsApart t before l →
      ∃ w, c.decode t (bytesOf l) = .ok w ∧
        c.decode t (holding before l after) = .ok (front ++ (w ++ back)) := by
  have hmap (f : UInt8 → Char) (l : List Char) :
      (holding before l after).map f = before.map f ++ ((bytesOf l).map f ++ after.map f) := by
    rw [holding, List.map_append, List.map_append]
  cases c with
  | utf8 =>
    refine ⟨Utf8.decode before, Utf8.decode after, fun l hascii hne _ => ⟨l, ?_, ?_⟩⟩
    · rw [Codec.decode, Utf8.decode_of_ascii (lt_of_mem_bytesOf hascii), asciiOf_bytesOf hascii]
    · exact congrArg Except.ok (Utf8.decode_holding hascii hne before after)
  | utf8Signed =>
    refine ⟨Utf8.decodeSigned before, Utf8.decode after, fun l hascii hne _ => ⟨l, ?_, ?_⟩⟩
    · rw [Codec.decode, Utf8.decodeSigned_of_ascii (lt_of_mem_bytesOf hascii),
        asciiOf_bytesOf hascii]
    · exact congrArg Except.ok (Utf8.decodeSigned_holding hascii hne before after)
  | ascii => exact ⟨_, _, fun l _ _ _ => ⟨_, rfl, congrArg Except.ok (hmap _ l)⟩⟩
  | latin1 => exact ⟨_, _, fun l _ _ _ => ⟨_, rfl, congrArg Except.ok (hmap _ l)⟩⟩
  | page p => exact ⟨_, _, fun l _ _ _ => ⟨_, rfl, congrArg Except.ok (hmap _ l)⟩⟩
  | provided p =>
    exact ⟨_, _, fun l _ _ h => ⟨_, rfl, congrArg Except.ok (Tables.decode_holding h after)⟩⟩
  | _ => exact ⟨[], [], fun l _ _ h => h.elim⟩

/-! ## Pages -/

theorem Declares.isAscii {bs : List UInt8} (h : Declares (headText bs) (some l)) :
    ∀ c ∈ l, c.toNat < 0x80 := by
  obtain ⟨u, hu, hlabel⟩ := h.exists_suffix
  exact fun c hc => toNat_lt_of_mem_headText (hu.subset (hlabel.subset hc))

theorem Declares.ne_nil {s : List Char} (h : Declares s (some l)) : l ≠ [] := by
  obtain ⟨u, -, hlabel⟩ := h.exists_suffix
  exact hlabel.ne_nil

/-- A page comes out as the text that the codec makes of it, and not at all if it makes none. -/
def IsDecodedBy (t : Tables) (c : Codec) (bs : List UInt8) : Prop :=
  (∀ s, c.decode t bs = .ok s → ∃ log, decode t bs = .ok ⟨.ofList s, log⟩) ∧
    ∀ f, c.decode t bs = .error f → ∃ e, decode t bs = .error e

theorem Names.isDecodedBy {bs : List UInt8} (hl : Names l c) (t : Tables)
    (h : Declares (headText bs) (some l)) : IsDecodedBy t (codecFor (detect bs)) bs := by
  have hdetect : detect bs = readAs l := detect_of_declares h
  have hnull : '\x00' ∉ (detect bs).toList := hdetect ▸ hl.null_notMem_readAs
  exact ⟨fun s hs => decodeAs_of_decode hnull hs, fun f hf => ⟨_, decodeAs_of_fault hnull hf⟩⟩

theorem instead_eq_windows1252 (hc : c = .latin1 ∨ c = .ascii) :
    c.instead = codecFor "windows-1252" ∧ c ≠ codecFor "windows-1252" := by
  rcases hc with rfl | rfl <;> exact ⟨rfl, by decide +kernel⟩

/-- Two labels of one codec, each declared by a page that holds it in the same place. The codecs by
which the pages are decoded are the same if and only if both labels are remapped or neither is, and
it takes a remapped one to have Latin-1 and ASCII read as `windows-1252`. By the same codec the
pages come out alike but for what it makes of the labels, if what it makes of the pages falls apart
around these; and the labels stand there as they are, if the codec keeps them. -/
theorem decode_spellings (t : Tables) (hl : Names l c) (hl' : Names l' c)
    (h : Declares (headText (holding before l after)) (some l))
    (h' : Declares (headText (holding before l' after)) (some l')) :
    let page := holding before l after
    let page' := holding before l' after
    let codec := codecFor (detect page)
    let codec' := codecFor (detect page')
    IsDecodedBy t codec page ∧ IsDecodedBy t codec' page' ∧
      (codec = codec' ↔ (IsRemapped l ↔ IsRemapped l')) ∧
      (c = .latin1 ∨ c = .ascii → (codec = codecFor "windows-1252" ↔ IsRemapped l)) ∧
      (codec = codec' → codec.FallsApart t before l → codec.FallsApart t before l' →
        ∃ front back w w',
          codec.decode t (bytesOf l) = .ok w ∧ codec'.decode t (bytesOf l') = .ok w' ∧
          codec.decode t page = .ok (front ++ (w ++ back)) ∧
          codec'.decode t page' = .ok (front ++ (w' ++ back))) ∧
      (codec.Keeps t (bytesOf l) → codec.decode t (bytesOf l) = .ok l) := by
  intro page page' codec codec'
  have hcodec : codec = if IsRemapped l then c.instead else c :=
    (congrArg codecFor (detect_of_declares h)).trans hl.codecFor_readAs
  have hcodec' : codec' = if IsRemapped l' then c.instead else c :=
    (congrArg codecFor (detect_of_declares h')).trans hl'.codecFor_readAs
  refine ⟨hl.isDecodedBy t h, hl'.isDecodedBy t h', ?_, fun hc => ?_, fun hsame hl hl' => ?_,
    fun hkeeps => ?_⟩
  · rw [hcodec, hcodec']
    by_cases hr : IsRemapped l <;> by_cases hr' : IsRemapped l'
    · simp [hr, hr']
    · simp [hr, hr', hl.instead_ne hr]
    · simp [hr, hr', (hl'.instead_ne hr').symm]
    · simp [hr, hr']
  · obtain ⟨hinstead, hne⟩ := instead_eq_windows1252 hc
    rw [hcodec]
    split <;> simp [*]
  · obtain ⟨front, back, hholding⟩ := codec.exists_decode_holding t before after
    obtain ⟨w, hw, hpage⟩ := hholding l h.isAscii h.ne_nil hl
    obtain ⟨w', hw', hpage'⟩ := hholding l' h'.isAscii h'.ne_nil hl'
    exact ⟨front, back, w, w', hw, hsame ▸ hw', hpage, hsame ▸ hpage'⟩
  · rw [hkeeps.decode (lt_of_mem_bytesOf h.isAscii), asciiOf_bytesOf h.isAscii]

/-- A page that declares the label, and has the byte `80` for its text. -/
def labelled (l : List Char) : List UInt8 :=
  holding (bytesOf opening) l (bytesOf "\"><p>".toList ++ [0x80])

theorem declares_labelled (hascii : l.all (·.toNat < 0x80)) (hlabel : l.all isLabelChar)
    (hne : l ≠ []) (hc : 'c' ∉ l.map Char.toLower)
    (htext : headText (labelled l) = opening ++ (l ++ '"' :: '>' :: "<p>".toList)) :
    Declares (headText (labelled l)) (some l) := by
  have hdeclarable : Declarable [] l :=
    { before_ascii := by simp
      opens_none := fun i => not_wordAt_of_notMem (c := '<') rfl (by simp)
      label_ascii := isAscii_of_all hascii
      label_ne_nil := hne
      label_chars := List.all_eq_true.mp hlabel
      names_none := fun i => not_wordAt_of_notMem (c := 'c') rfl hc }
  rw [htext]
  exact hdeclarable.declares (List.prefix_refl _)

/-- A page that says it is in Latin-1, in the spelling that stands in the table. -/
theorem declares_iso88591 :
    let l := "iso-8859-1".toList
    Names l .latin1 ∧ Declares (headText (labelled l)) (some l) :=
  ⟨⟨by decide, by decide +kernel⟩,
    declares_labelled (by decide) (by decide) (by decide) (by decide) (by decide +kernel)⟩

theorem decode_spellings_latin1 :
    let l := "LATIN1".toList
    let l' := "iso-8859-1".toList
    (Names l .latin1 ∧ Names l' .latin1) ∧
      (Declares (headText (labelled l)) (some l) ∧ Declares (headText (labelled l')) (some l')) ∧
      codecFor (detect (labelled l)) = codecFor "windows-1252" ∧
      codecFor (detect (labelled l')) = codecFor "windows-1252" := by
  intro l l'
  have hl : Names l .latin1 := ⟨by decide, by decide +kernel⟩
  have h : Declares (headText (labelled l)) (some l) :=
    declares_labelled (by decide) (by decide) (by decide) (by decide) (by decide +kernel)
  obtain ⟨hl', h'⟩ := declares_iso88591
  obtain ⟨-, -, hsame, hbrowsers, -⟩ := decode_spellings .bare hl hl' h h'
  have hremapped : IsRemapped l := by decide
  have hremapped' : IsRemapped l' := by decide
  have hcodec := (hbrowsers (.inl rfl)).mpr hremapped
  have hcodec' := (hsame.mpr ⟨fun _ => hremapped', fun _ => hremapped⟩).symm.trans hcodec
  exact ⟨⟨hl, hl'⟩, ⟨h, h'⟩, hcodec, hcodec'⟩

/-- With its first dash written as another mark a label of Latin-1 is one still, but not one that is
remapped, and the byte `80` comes out as a control character. -/
theorem decode_spellings_underscore :
    let l := "iso_8859-1".toList
    let l' := "iso-8859-1".toList
    (Names l .latin1 ∧ Names l' .latin1) ∧
      (Declares (headText (labelled l)) (some l) ∧ Declares (headText (labelled l')) (some l')) ∧
      codecFor (detect (labelled l)) ≠ codecFor (detect (labelled l')) ∧
      codecFor (detect (labelled l)) ≠ codecFor "windows-1252" ∧
      decode .bare (labelled l) = .ok ⟨"<meta charset=\"iso_8859-1\"><p>\x80", []⟩ := by
  intro l l'
  have hl : Names l .latin1 := ⟨by decide, by decide +kernel⟩
  have h : Declares (headText (labelled l)) (some l) :=
    declares_labelled (by decide) (by decide) (by decide) (by decide) (by decide +kernel)
  obtain ⟨hl', h'⟩ := declares_iso88591
  have hdetect : detect (labelled l) = readAs l := detect_of_declares h
  have hdetect' : detect (labelled l') = readAs l' := detect_of_declares h'
  rw [decode, hdetect, hdetect']
  exact ⟨⟨hl, hl'⟩, ⟨h, h'⟩, by decide +kernel, by decide +kernel, by decide +kernel⟩

end PageAudit.Charset
