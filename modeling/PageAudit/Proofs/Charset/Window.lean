import PageAudit.Proofs.Charset.Declaration
import PageAudit.Proofs.Charset.Replacement

/-!
# A declaration at the end of the window

The window may end anywhere in a declaration. Before the label has begun nothing is declared
(`Declarable.declares_none`), and after it has ended all of it is. In between, the part that is
there is declared (`Declarable.declares_take`), since a label ends at the end of the text as well as
at a quote. A part of a label can be the label of something else, so a page can be read by a label
that stands nowhere in it (`detect_declaring_cutLatin9`).
-/

namespace PageAudit.Charset

variable {s t v before label l : List Char} {w : String} {c : Char} {i j k n : Nat}

/-! ## Where words stand -/

instance : Decidable (WordAt s i w) :=
  inferInstanceAs (Decidable (_ <+: _))

theorem WordAt.getElem? (h : WordAt s i w) (hn : w.toList[n]? = some c) :
    ∃ d, s[i + n]? = some d ∧ d.toLower = c := by
  obtain ⟨hlt, rfl⟩ := List.getElem?_eq_some_iff.mp hn
  have hget := List.prefix_iff_getElem?.mp h n hlt
  rwa [List.getElem?_map, List.getElem?_drop, Option.map_eq_some_iff] at hget

theorem not_wordAt_of_notMem (hc : w.toList[0]? = some c) (h : c ∉ s.map Char.toLower) :
    ¬ WordAt s i w := by
  intro hword
  obtain ⟨d, hd, rfl⟩ := hword.getElem? hc
  exact h (List.mem_map_of_mem (List.mem_of_getElem? hd))

theorem WordAt.of_prefix (hst : s <+: t) (h : WordAt s i w) : WordAt t i w := by
  obtain ⟨u, rfl⟩ := hst
  refine List.IsPrefix.trans h ?_
  rw [List.drop_append]
  exact (List.prefix_append _ _).map _

theorem wordAt_append_right : WordAt (s ++ t) (s.length + i) w ↔ WordAt t i w := by
  rw [WordAt, List.drop_length_add_append, WordAt]

/-- A word does not reach into a text that begins with none of its letters after the first. -/
theorem WordAt.append_cases (h : WordAt (s ++ t) i w)
    (ht : ∀ c ∈ t.head?, c.toLower ∉ w.toList.tail) : WordAt s i w ∨ s.length ≤ i := by
  rcases Nat.lt_or_ge i s.length with hi | hi
  · refine .inl ?_
    have hfits : i + w.toList.length ≤ s.length := by
      by_contra hlong
      obtain ⟨n, hn⟩ : ∃ n, s.length = i + (n + 1) := ⟨s.length - i - 1, by omega⟩
      have hlt : n < w.toList.tail.length := by
        rw [List.length_tail]
        omega
      have hletter : w.toList[n + 1]? = some w.toList.tail[n] := by
        rw [← List.getElem?_tail, List.getElem?_eq_getElem hlt]
      obtain ⟨d, hd, hlower⟩ := h.getElem? hletter
      rw [← hn, List.getElem?_append_right Nat.le.refl, Nat.sub_self,
        ← List.head?_eq_getElem?] at hd
      exact ht d hd (hlower ▸ List.getElem_mem hlt)
    rw [WordAt, List.drop_append_of_le_length hi.le, List.map_append] at h
    refine List.prefix_of_prefix_length_le h (List.prefix_append _ _) ?_
    rw [List.length_map, List.length_drop]
    omega
  · exact .inr hi

/-! ## Texts with one declaration -/

/-- What a declaration has before its label. -/
def opening : List Char :=
  "<meta charset=\"".toList

@[simp]
theorem length_opening : opening.length = 15 := rfl

/-- The first text is ASCII and opens no `meta` element, and the second is a label of ASCII that
holds no declaration of its own. -/
structure Declarable (before label : List Char) : Prop where
  before_ascii : ∀ c ∈ before, c.toNat < 0x80
  opens_none : ∀ i, ¬ WordAt before i "<meta"
  label_ascii : ∀ c ∈ label, c.toNat < 0x80
  label_ne_nil : label ≠ []
  label_chars : ∀ c ∈ label, isLabelChar c
  names_none : ∀ i, ¬ WordAt label i "charset="

theorem isAscii_of_all (h : s.all (·.toNat < 0x80)) : ∀ c ∈ s, c.toNat < 0x80 := by
  simpa using h

theorem declarable_latin9 (n : Nat) :
    Declarable (List.replicate n 'x') "ISO-8859-15".toList where
  before_ascii c hc := by
    rw [List.eq_of_mem_replicate hc]
    decide
  opens_none i := by
    refine not_wordAt_of_notMem (c := '<') rfl ?_
    rw [List.map_replicate]
    exact fun hmem => absurd (List.eq_of_mem_replicate hmem) (by decide)
  label_ascii := isAscii_of_all (by decide)
  label_ne_nil := by decide
  label_chars := List.all_eq_true.mp (by decide)
  names_none i := not_wordAt_of_notMem (c := 'c') rfl (by decide)

theorem getElem?_opening (hn : n < 15) :
    (before ++ (opening ++ t))[before.length + n]? = opening[n]? := by
  rw [List.getElem?_append_right (Nat.le_add_right _ _), Nat.add_sub_cancel_left,
    List.getElem?_append_left hn]

/-- From the second letter of `charset` on, the opening has none of the letters `c` and `o`. -/
theorem letter_mem_opening (h : WordAt (before ++ (opening ++ t)) i w) (hn : w.toList[n]? = some c)
    (hge : before.length + 7 ≤ i + n) (hlt : i + n < before.length + 15) :
    c ∈ (opening.drop 7).map Char.toLower := by
  obtain ⟨d, hd, rfl⟩ := h.getElem? hn
  obtain ⟨m, hm⟩ := Nat.exists_eq_add_of_le hge
  rw [hm, Nat.add_assoc, getElem?_opening (by omega), ← List.getElem?_drop] at hd
  exact List.mem_map_of_mem (List.mem_of_getElem? hd)

theorem mem_extract_append_cons (hi : i ≤ s.length) (hj : s.length < j) :
    c ∈ (s ++ c :: t).extract i j := by
  rw [List.extract_eq_take_drop, List.drop_append_of_le_length hi]
  refine List.mem_of_getElem? (i := s.length - i) ?_
  rw [List.getElem?_take_of_lt (by omega), List.getElem?_append_right (by simp)]
  simp

theorem eq_of_mem_head? (ht : t <+: '"' :: '>' :: v) (hc : c ∈ t.head?) : c = '"' := by
  rcases t with _ | ⟨d, t⟩
  · cases hc
  · cases hc
    exact (List.cons_prefix_cons.mp ht).1

/-- After a label nothing is named before the tag has ended. -/
theorem exists_eq_of_names (ht : t <+: '"' :: '>' :: v) (h : WordAt t i "charset=") :
    ∃ u, t = '"' :: '>' :: u ∧ 2 ≤ i := by
  obtain ⟨d, hd, hlower⟩ := h.getElem? (n := 0) rfl
  rcases t with _ | ⟨a, _ | ⟨b, t⟩⟩
  · cases hd
  · obtain ⟨rfl, -⟩ := List.cons_prefix_cons.mp ht
    rcases i with _ | i
    · cases hd
      exact absurd hlower (by decide)
    · cases hd
  · obtain ⟨rfl, ht'⟩ := List.cons_prefix_cons.mp ht
    obtain ⟨rfl, -⟩ := List.cons_prefix_cons.mp ht'
    rcases i with _ | _ | i
    · cases hd
      exact absurd hlower (by decide)
    · cases hd
      exact absurd hlower (by decide)
    · exact ⟨t, rfl, by omega⟩

namespace Declarable

/-- The start of a label is a label. -/
theorem of_prefix (h : Declarable before label) (hl : l <+: label) (hne : l ≠ []) :
    Declarable before l where
  before_ascii := h.before_ascii
  opens_none := h.opens_none
  label_ascii c hc := h.label_ascii c (hl.subset hc)
  label_ne_nil := hne
  label_chars c hc := h.label_chars c (hl.subset hc)
  names_none i hi := h.names_none i (hi.of_prefix hl)

variable (h : Declarable before label)

include h

/-- The first `meta` element is the one after the first text. -/
theorem length_le_of_opens (hi : WordAt (before ++ (opening ++ t)) i "<meta") :
    before.length ≤ i := by
  refine (hi.append_cases ?_).resolve_left (h.opens_none i)
  rintro c ⟨⟩
  decide

/-- A second `charset=` can begin neither in the opening nor in the label. -/
theorem closed_of_names (ht : t <+: '"' :: '>' :: v)
    (hj : WordAt (before ++ (opening ++ (label ++ t))) j "charset=")
    (hlt : before.length + 6 < j) :
    ∃ u, t = '"' :: '>' :: u ∧ before.length + 15 + label.length + 2 ≤ j := by
  have hstart : before.length + 15 ≤ j := by
    by_contra hgt
    exact absurd (letter_mem_opening (n := 0) hj rfl (by omega) (by omega)) (by decide)
  obtain ⟨m, rfl⟩ := Nat.exists_eq_add_of_le hstart
  rw [Nat.add_assoc, wordAt_append_right, ← length_opening, wordAt_append_right] at hj
  have hm : label.length ≤ m := by
    refine (hj.append_cases fun c hc => ?_).resolve_left (h.names_none m)
    rw [eq_of_mem_head? ht hc]
    decide
  obtain ⟨q, rfl⟩ := Nat.exists_eq_add_of_le hm
  rw [wordAt_append_right] at hj
  obtain ⟨u, hu, hq⟩ := exists_eq_of_names ht hj
  exact ⟨u, hu, by omega⟩

/-- The tag ends right after the label, so the last declaration in it is the label's. -/
theorem le_of_isAttribute (ht : t <+: '"' :: '>' :: v)
    (hj : IsAttribute (before ++ (opening ++ (label ++ t))) before.length j l) :
    j ≤ before.length + 6 := by
  by_contra hgt
  obtain ⟨u, rfl, hlt⟩ := h.closed_of_names ht hj.names (not_le.mp hgt)
  refine hj.inMeta.inside ?_
  have htext : before ++ (opening ++ (label ++ '"' :: '>' :: u))
      = before ++ (opening ++ (label ++ ['"'])) ++ '>' :: u := by simp
  have hlength : (before ++ (opening ++ (label ++ ['"']))).length
      = before.length + 15 + (label.length + 1) := by
    simp [Nat.add_assoc]
  rw [htext]
  exact mem_extract_append_cons (by omega) (by omega)

theorem isAttribute (ht : t <+: '"' :: '>' :: v) :
    IsAttribute (before ++ (opening ++ (label ++ t))) before.length (before.length + 6) label where
  inMeta := by
    refine ⟨?_, le_rfl, ?_⟩
    · have hopens : WordAt opening 0 "<meta" := by decide
      exact (wordAt_append_right (i := 0)).mpr (hopens.of_prefix (List.prefix_append _ _))
    · rw [List.extract_eq_take_drop, List.drop_length_add_append, Nat.add_sub_add_left]
      exact (by decide : '>' ∉ [' '])
  names := by
    have hnames : WordAt opening 6 "charset=" := by decide
    exact wordAt_append_right.mpr (hnames.of_prefix (List.prefix_append _ _))
  label := by
    refine ⟨['"'], [], label ++ t, ?_, le_rfl, ?_, by simp, h.label_ne_nil, h.label_chars, t, rfl,
      fun c hc => ?_⟩
    · rw [Nat.add_assoc, List.drop_length_add_append]
      rfl
    · simp [isQuote]
    · rw [eq_of_mem_head? ht hc]
      decide

theorem declares (ht : t <+: '"' :: '>' :: v) :
    Declares (before ++ (opening ++ (label ++ t))) (some label) := by
  have hlabel := h.isAttribute ht
  refine .byAttribute ⟨⟨_, _, hlabel⟩, ?_⟩ ⟨⟨_, hlabel⟩, ?_⟩ hlabel
  · rintro i ⟨j, l, hi⟩
    exact h.length_le_of_opens hi.inMeta.opens
  · rintro j ⟨l, hj⟩
    exact h.le_of_isAttribute ht hj

theorem declares_none (hn : n ≤ before.length + 15) :
    Declares ((before ++ (opening ++ t)).take n) none := by
  have hroom {i j : Nat} (hj : InMeta ((before ++ (opening ++ t)).take n) i j) :
      before.length + 6 ≤ j := by
    have hi := h.length_le_of_opens (hj.opens.of_prefix (List.take_prefix n _))
    have := hj.room
    omega
  refine .nothing (fun i j l hl => ?_) fun i k j l hl => ?_
  · -- only the quote is left, and it is no label
    obtain ⟨u, hu, hlabel⟩ := hl.label.exists_suffix
    obtain ⟨c, v, rfl, hc⟩ := hlabel.exists_cons
    obtain ⟨q, hq⟩ := List.mem_iff_getElem?.mp (hu.subset List.mem_cons_self)
    have hj := hroom hl.inMeta
    rw [List.getElem?_drop, List.getElem?_take] at hq
    split at hq
    · obtain ⟨m, hm⟩ := Nat.exists_eq_add_of_le (show before.length + 14 ≤ j + 8 + q by omega)
      obtain rfl : m = 0 := by omega
      rw [hm, Nat.add_zero, getElem?_opening (by omega)] at hq
      cases hq
      exact absurd hc (by decide)
    · cases hq
  · have hj := hroom hl.inMeta
    have hcontent := hl.value.content
    obtain ⟨d, hd, -⟩ := hcontent.getElem? (n := 1) rfl
    have hlt := (List.getElem?_eq_some_iff.mp hd).1
    rw [List.length_take] at hlt
    have hmem := letter_mem_opening (n := 1) (hcontent.of_prefix (List.take_prefix n _)) rfl
      (by omega) (by omega)
    exact absurd hmem (by decide)

/-- The window ends before the label, within it or after it. -/
theorem declares_take (rest : List Char) (n : Nat) :
    Declares ((before ++ (opening ++ (label ++ '"' :: '>' :: rest))).take n)
      (if n ≤ before.length + 15 then none else some (label.take (n - (before.length + 15)))) := by
  split
  · exact h.declares_none ‹_›
  · rename_i hn
    obtain ⟨k, rfl⟩ := Nat.exists_eq_add_of_lt (not_le.mp hn)
    have htake : before.length + 15 + k + 1 = before.length + (opening.length + (k + 1)) := by
      rw [length_opening, Nat.add_assoc, Nat.add_assoc]
    have hseen : label.take (k + 1) ≠ [] := by
      rw [ne_eq, List.take_eq_nil_iff]
      exact not_or.mpr ⟨Nat.succ_ne_zero k, h.label_ne_nil⟩
    rw [Nat.add_assoc _ k, Nat.add_sub_cancel_left, ← Nat.add_assoc _ k, htake,
      List.take_length_add_append, List.take_length_add_append, List.take_append]
    exact (h.of_prefix (List.take_prefix _ _) hseen).declares (List.take_prefix _ _)

end Declarable

/-! ## Pages -/

/-- The bytes of a text of ASCII. -/
def bytesOf (s : List Char) : List UInt8 :=
  s.map fun c => c.toNat.toUInt8

/-- A page that declares the label, if all of it is read. -/
def declaring (before label : List Char) (after : List UInt8) : List UInt8 :=
  bytesOf (before ++ opening ++ label ++ "\">".toList) ++ after

/-- What a label is read as. -/
def readAs (l : List Char) : String :=
  remap (.ofList (l.map Char.toLower))

theorem asciiOf_bytesOf (h : ∀ c ∈ s, c.toNat < 0x80) : asciiOf (bytesOf s) = s := by
  induction s with
  | nil => rfl
  | cons c s ih =>
    rw [List.forall_mem_cons] at h
    have hc : c.toNat.toUInt8.toNat = c.toNat :=
      UInt8.toNat_ofNat_of_lt' (h.1.trans (by decide))
    have hlt : c.toNat.toUInt8.toNat < 0x80 := hc.symm ▸ h.1
    rw [bytesOf, List.map_cons, asciiOf_cons_of_lt hlt, hc, Char.ofNat_toNat]
    exact congrArg _ (ih h.2)

theorem headText_bytesOf_append (h : ∀ c ∈ s, c.toNat < 0x80) (after : List UInt8) :
    ∃ rest, headText (bytesOf s ++ after) = (s ++ rest).take window := by
  refine ⟨asciiOf (after.take (window - s.length)), ?_⟩
  have hlength : (asciiOf (after.take (window - s.length))).length ≤ window - s.length :=
    (length_asciiOf_le _).trans (List.length_take_le _ _)
  have hbytes : (bytesOf s).length = s.length := List.length_map _
  have hstart : asciiOf ((bytesOf s).take window) = s.take window := by
    rw [bytesOf, ← List.map_take]
    exact asciiOf_bytesOf fun c hc => h c (List.mem_of_mem_take hc)
  rw [List.take_append, List.take_of_length_le hlength, ← hstart, ← hbytes, ← asciiOf_append,
    ← List.take_append]
  rfl

theorem Declarable.detect_eq (h : Declarable before label) (after : List UInt8) :
    detect (declaring before label after)
      = if window ≤ (before ++ opening).length then "utf-8"
        else readAs (label.take (window - (before ++ opening).length)) := by
  have hascii : ∀ c ∈ before ++ opening ++ label ++ "\">".toList, c.toNat < 0x80 := by
    simp only [List.forall_mem_append]
    exact ⟨⟨⟨h.before_ascii, isAscii_of_all (by decide)⟩, h.label_ascii⟩,
      isAscii_of_all (by decide)⟩
  obtain ⟨rest, hrest⟩ := headText_bytesOf_append hascii after
  have hdeclares := h.declares_take rest window
  have htext : before ++ opening ++ label ++ "\">".toList ++ rest
      = before ++ (opening ++ (label ++ '"' :: '>' :: rest)) := by simp
  have hlength : (before ++ opening).length = before.length + 15 := List.length_append
  rw [← htext, ← hrest, ← hlength] at hdeclares
  rw [declaring, detect_of_declares hdeclares]
  split <;> rfl

/-- A label of which the window holds a part is read as that part. Only where the window ends
inside the label can it be read as anything but itself and UTF-8. -/
theorem detect_declaring (h : Declarable before label) (after : List UInt8) :
    let start := (before ++ opening).length
    detect (declaring before label after)
        = (if window ≤ start then "utf-8" else readAs (label.take (window - start))) ∧
      (window ≤ start ∨ start + label.length ≤ window →
        detect (declaring before label after) ∈ ["utf-8", readAs label]) := by
  intro start
  refine ⟨h.detect_eq after, ?_⟩
  rw [h.detect_eq after]
  rintro (hbefore | hafter)
  · rw [if_pos hbefore]
    exact List.mem_cons_self
  · split
    · exact List.mem_cons_self
    · rw [List.take_of_length_le (by omega)]
      exact List.mem_cons_of_mem _ List.mem_cons_self

/-- The label ends where the window does. -/
theorem detect_declaring_latin9 :
    let before := List.replicate 2022 'x'
    let label := "ISO-8859-15".toList
    Declarable before label ∧
      (window ≤ (before ++ opening).length
        ∨ (before ++ opening).length + label.length ≤ window) ∧
      detect (declaring before label []) ∈ ["utf-8", readAs label] := by
  intro before label
  have hpage : Declarable before label := declarable_latin9 2022
  have hends : window ≤ (before ++ opening).length
      ∨ (before ++ opening).length + label.length ≤ window := by
    rw [List.length_append, List.length_replicate]
    decide
  exact ⟨hpage, hends, (detect_declaring hpage []).2 hends⟩

/-- With its last digit beyond the window, the label is that of another code page. -/
theorem detect_declaring_cutLatin9 :
    let before := List.replicate 2023 'x'
    let label := "ISO-8859-15".toList
    Declarable before label ∧
      detect (declaring before label []) = "windows-1252" ∧
      detect (declaring before label []) ∉ ["utf-8", readAs label] := by
  intro before label
  have hpage : Declarable before label := declarable_latin9 2023
  have hdetect : detect (declaring before label []) = "windows-1252" := by
    rw [hpage.detect_eq, List.length_append, List.length_replicate]
    decide
  exact ⟨hpage, hdetect, by rw [hdetect]; decide⟩

end PageAudit.Charset
