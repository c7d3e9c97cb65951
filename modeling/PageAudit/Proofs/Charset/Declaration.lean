import PageAudit.Proofs.Charset.Label
import PageAudit.Proofs.Charset.Search

/-!
# The declaration that is found

What a text declares is said without a search (`Declares`): by the places at which the words of a
declaration stand, the first `meta` element that declares anything, and in it the last place where
it does. There is one answer to each text (`Declares.unique`), and the search finds it
(`exists_declares`), so `detect` gives the label declared by the start of a page, in small letters
and as it is to be read (`detect_spec`).
-/

namespace PageAudit.Charset

variable {s u l r : List Char} {i j k : Nat} {bs : List UInt8}

/-! ## Declarations -/

/-- The word stands at place `i` of the text, in letters of either case. -/
def WordAt (s : List Char) (i : Nat) (w : String) : Prop :=
  w.toList <+: (s.drop i).map Char.toLower

/-- Place `j` is inside the tag of the `meta` element that opens at place `i`, and not at its very
name. -/
structure InMeta (s : List Char) (i j : Nat) : Prop where
  opens : WordAt s i "<meta"
  room : i + 6 ≤ j
  inside : '>' ∉ s.extract (i + 5) j

/-- The `meta` element at place `i` declares the label at place `j`, by an attribute. -/
structure IsAttribute (s : List Char) (i j : Nat) (l : List Char) : Prop where
  inMeta : InMeta s i j
  names : WordAt s j "charset="
  label : StartsWithOpenLabel (s.drop (j + 8)) l

/-- The value of the attribute `content` at place `k` declares the label at place `j`. -/
structure IsValue (s : List Char) (k j : Nat) (l : List Char) : Prop where
  content : WordAt s k "content="
  quoted : ∃ c, s[k + 8]? = some c ∧ isQuote c
  room : k + 9 ≤ j
  inside : ∀ c ∈ s.extract (k + 9) j, ¬ isQuote c
  names : WordAt s j "charset="
  label : StartsWithLabel (s.drop (j + 8)) l

/-- The `meta` element at place `i` declares the label at place `j`, in the value of the attribute
`content` at place `k`. -/
structure IsContent (s : List Char) (i k j : Nat) (l : List Char) : Prop where
  inMeta : InMeta s i k
  value : IsValue s k j l

/-- The label that a text declares, or that it declares none. -/
inductive Declares (s : List Char) : Option (List Char) → Prop
  | byAttribute {i j : Nat} {l : List Char}
      (hi : IsLeast {i | ∃ j l, IsAttribute s i j l} i)
      (hj : IsGreatest {j | ∃ l, IsAttribute s i j l} j)
      (h : IsAttribute s i j l) : Declares s (some l)
  | byContent {i k j : Nat} {l : List Char}
      (hnone : ∀ i j l, ¬ IsAttribute s i j l)
      (hi : IsLeast {i | ∃ k j l, IsContent s i k j l} i)
      (hk : IsGreatest {k | ∃ j l, IsContent s i k j l} k)
      (hj : IsGreatest {j | ∃ l, IsContent s i k j l} j)
      (h : IsContent s i k j l) : Declares s (some l)
  | nothing
      (hattribute : ∀ i j l, ¬ IsAttribute s i j l)
      (hcontent : ∀ i k j l, ¬ IsContent s i k j l) : Declares s none

/-- The text in which a declaration is looked for. -/
def headText (bs : List UInt8) : List Char :=
  ((bs.take 2048).filter (· < 0x80)).map fun b => Char.ofNat b.toNat

/-! ## Places -/

theorem wordAt_iff {w : String} : WordAt s i w ↔ w.toList <+: (s.map Char.toLower).drop i := by
  rw [WordAt, List.map_drop]

theorem WordAt.lt_length {w : String} (h : WordAt s i w) (hw : w.toList ≠ []) : i < s.length := by
  have hlen := List.IsPrefix.length_le h
  have hpos := List.length_pos_of_ne_nil hw
  rw [List.length_map, List.length_drop] at hlen
  omega

theorem run_map_toLower {p : Char → Bool} (hp : ∀ c, p c.toLower = p c) :
    Run p (s.map Char.toLower) i j ↔ Run p s i j := by
  have hall : (∀ c ∈ (s.map Char.toLower).extract i j, p c) ↔ ∀ c ∈ s.extract i j, p c := by
    rw [List.extract_eq_take_drop, ← List.map_drop, ← List.map_take, List.forall_mem_map]
    simp only [hp, List.extract_eq_take_drop]
  constructor
  · rintro ⟨hle, hlen, h⟩
    exact ⟨hle, by simpa using hlen, hall.mp h⟩
  · rintro ⟨hle, hlen, h⟩
    exact ⟨hle, by simpa using hlen, hall.mpr h⟩

/-- What `k` makes of the text at the last place inside the tag from which it makes anything. -/
def inMeta (k : List Char → Option (List Char)) : List Char → Option (List Char) :=
  afterWord "<meta" <| afterSome (· != '>') k

theorem inMeta_picks {k : List Char → Option (List Char)} (hk : k [] = none) (s : List Char)
    (i : Nat) :
    Picks IsGreatest (fun j r => InMeta s i j ∧ k ((s.map Char.toLower).drop j) = some r)
      (inMeta k ((s.map Char.toLower).drop i)) := by
  have hclass : ∀ c : Char, (c.toLower != '>') = (c != '>') :=
    apply_toLower (p := (· != '>')) (by decide)
  rw [inMeta, afterWord_drop]
  split
  · rename_i hword
    refine (afterSome_picks _ k _ (i + 5)).congr fun j r => ?_
    rw [run_map_toLower hclass]
    constructor
    · rintro ⟨⟨hroom, hrun⟩, hr⟩
      refine ⟨⟨wordAt_iff.mpr hword, hroom, fun hmem => ?_⟩, hr⟩
      simpa using hrun.all _ hmem
    · rintro ⟨⟨-, hroom, hinside⟩, hr⟩
      have hlen : j ≤ s.length := by
        by_contra hgt
        rw [List.drop_of_length_le (by simpa using (not_le.mp hgt).le), hk] at hr
        cases hr
      refine ⟨⟨hroom, (Nat.le_of_succ_le hroom), hlen, fun c hc => ?_⟩, hr⟩
      exact bne_iff_ne.mpr fun heq => hinside (heq ▸ hc)
  · rename_i hword
    exact .nothing fun j r h => hword (wordAt_iff.mp h.1.opens)

/-- After its name a label is read from the text in small letters as from the text itself, but for
letter case. -/
theorem afterCharset_eq_some_iff {f : List Char → Option (List Char)}
    (hf : ∀ u, f (u.map Char.toLower) = (f u).map (List.map Char.toLower)) :
    afterWord "charset=" f ((s.map Char.toLower).drop j) = some r
      ↔ WordAt s j "charset=" ∧ ∃ l, f (s.drop (j + 8)) = some l ∧ l.map Char.toLower = r := by
  have hlength : "charset=".length = 8 := rfl
  rw [afterWord_drop, wordAt_iff, hlength, ← List.map_drop (i := j + 8), hf]
  split <;> rename_i hword <;>
    simp only [hword, true_and, false_and, reduceCtorEq, Option.map_eq_some_iff]

/-- The last declaration in the value of `content`, if that is what the text starts with. -/
def inValue : List Char → Option (List Char) :=
  afterWord "content=" <| quoteThen <| afterRun (!isQuote ·) <| afterWord "charset=" label?

theorem inValue_picks (s : List Char) (k : Nat) :
    Picks IsGreatest (fun j r => ∃ l, IsValue s k j l ∧ l.map Char.toLower = r)
      (inValue ((s.map Char.toLower).drop k)) := by
  have hquoted : (s.map Char.toLower)[k + 8]?.any isQuote
      ↔ ∃ c, s[k + 8]? = some c ∧ isQuote c := by
    simp only [List.getElem?_map, Option.any_map, isQuote_toLower, Option.any_eq_true]
  have hlength : "content=".length = 8 := rfl
  rw [inValue, afterWord_drop, hlength, quoteThen_drop]
  split
  · rename_i hcontent
    split
    · rename_i hquote
      have hlen : k + 9 ≤ (s.map Char.toLower).length := by
        obtain ⟨c, hc, -⟩ := hquoted.mp hquote
        rw [List.length_map]
        exact (List.getElem?_eq_some_iff.mp hc).1
      refine (afterRun_picks _ _ _ hlen).congr fun j r => ?_
      rw [run_map_toLower (by simp), afterCharset_eq_some_iff label?_map_toLower]
      constructor
      · rintro ⟨hrun, hword, l, hl, rfl⟩
        exact ⟨l, ⟨wordAt_iff.mpr hcontent, hquoted.mp hquote, hrun.le,
          fun c hc => by simpa using hrun.all c hc, hword, label?_eq_some_iff.mp hl⟩, rfl⟩
      · rintro ⟨l, h, rfl⟩
        have hrun : Run (!isQuote ·) s (k + 9) j :=
          ⟨h.room, (h.names.lt_length (by decide)).le, fun c hc => by simpa using h.inside c hc⟩
        exact ⟨hrun, h.names, l, label?_eq_some_iff.mpr h.label, rfl⟩
    · rename_i hquote
      exact .nothing fun j r ⟨l, h, _⟩ => hquote (hquoted.mpr h.quoted)
  · rename_i hcontent
    exact .nothing fun j r ⟨l, h, _⟩ => hcontent (wordAt_iff.mp h.content)

/-! ## The search through all places -/

section Places

variable {k : List Char → Option (List Char)} (hk : k [] = none)

include hk

theorem exists_inMeta_iff :
    (∃ r, i ≤ (s.map Char.toLower).length ∧ inMeta k ((s.map Char.toLower).drop i) = some r)
      ↔ ∃ j r, InMeta s i j ∧ k ((s.map Char.toLower).drop j) = some r := by
  rw [exists_and_left, (inMeta_picks hk s i).exists_eq_some_iff, and_iff_right_of_imp]
  rintro ⟨j, r, h, -⟩
  simpa using (h.opens.lt_length (by decide)).le

theorem firstFrom_inMeta_eq_none_iff :
    firstFrom (inMeta k) (s.map Char.toLower) = none
      ↔ ∀ i j, ¬ ∃ r, InMeta s i j ∧ k ((s.map Char.toLower).drop j) = some r := by
  have hfirst := firstFrom_picks (inMeta k) (s.map Char.toLower)
  rw [← not_iff_not, ← ne_eq, Option.ne_none_iff_exists', hfirst.exists_eq_some_iff]
  simp only [exists_inMeta_iff hk, not_forall, not_not]

theorem exists_of_firstFrom_inMeta (h : firstFrom (inMeta k) (s.map Char.toLower) = some r) :
    ∃ i j, IsLeast {i | ∃ j r, InMeta s i j ∧ k ((s.map Char.toLower).drop j) = some r} i ∧
      IsGreatest {j | ∃ r, InMeta s i j ∧ k ((s.map Char.toLower).drop j) = some r} j ∧
      InMeta s i j ∧ k ((s.map Char.toLower).drop j) = some r := by
  have hfirst := firstFrom_picks (inMeta k) (s.map Char.toLower)
  rw [h] at hfirst
  cases hfirst with
  | @found i _ hi hr =>
    simp only [exists_inMeta_iff hk] at hi
    have hlast := inMeta_picks hk s i
    rw [hr.2] at hlast
    cases hlast with
    | @found j _ hj hr => exact ⟨i, j, hi, hj, hr⟩

end Places

/-- The label that an attribute at place `j` declares. -/
def inAttribute : List Char → Option (List Char) :=
  afterWord "charset=" openLabel?

theorem attributeForm_eq : attributeForm = firstFrom (inMeta inAttribute) := rfl

theorem contentForm_eq : contentForm = firstFrom (inMeta inValue) := rfl

theorem attribute_iff :
    InMeta s i j ∧ inAttribute ((s.map Char.toLower).drop j) = some r
      ↔ ∃ l, IsAttribute s i j l ∧ l.map Char.toLower = r := by
  simp only [inAttribute, afterCharset_eq_some_iff openLabel?_map_toLower, openLabel?_eq_some_iff]
  constructor
  · rintro ⟨hmeta, hnames, l, hl, hr⟩
    exact ⟨l, ⟨hmeta, hnames, hl⟩, hr⟩
  · rintro ⟨l, ⟨hmeta, hnames, hl⟩, hr⟩
    exact ⟨hmeta, hnames, l, hl, hr⟩

theorem exists_attribute_iff :
    (∃ r, InMeta s i j ∧ inAttribute ((s.map Char.toLower).drop j) = some r)
      ↔ ∃ l, IsAttribute s i j l := by
  simp only [attribute_iff]
  rw [exists_comm]
  simp only [exists_and_left, exists_eq', and_true]

theorem exists_content_iff :
    (∃ r, InMeta s i k ∧ inValue ((s.map Char.toLower).drop k) = some r)
      ↔ ∃ j l, IsContent s i k j l := by
  rw [exists_and_left, (inValue_picks s k).exists_eq_some_iff]
  constructor
  · rintro ⟨hmeta, n, r, l, hvalue, -⟩
    exact ⟨n, l, hmeta, hvalue⟩
  · rintro ⟨n, l, hmeta, hvalue⟩
    exact ⟨hmeta, n, _, l, hvalue, rfl⟩

theorem attributeForm_eq_none_iff :
    attributeForm (s.map Char.toLower) = none ↔ ∀ i j l, ¬ IsAttribute s i j l := by
  rw [attributeForm_eq, firstFrom_inMeta_eq_none_iff rfl]
  simp only [exists_attribute_iff, not_exists]

theorem contentForm_eq_none_iff :
    contentForm (s.map Char.toLower) = none ↔ ∀ i k j l, ¬ IsContent s i k j l := by
  rw [contentForm_eq, firstFrom_inMeta_eq_none_iff rfl]
  simp only [exists_content_iff, not_exists]

theorem declares_of_attributeForm (h : attributeForm (s.map Char.toLower) = some r) :
    ∃ l, Declares s (some l) ∧ l.map Char.toLower = r := by
  rw [attributeForm_eq] at h
  obtain ⟨i, j, hi, hj, hr⟩ := exists_of_firstFrom_inMeta rfl h
  simp only [exists_attribute_iff] at hi hj
  obtain ⟨l, hl, rfl⟩ := attribute_iff.mp hr
  exact ⟨l, .byAttribute hi hj hl, rfl⟩

theorem declares_of_contentForm (hnone : ∀ i j l, ¬ IsAttribute s i j l)
    (h : contentForm (s.map Char.toLower) = some r) :
    ∃ l, Declares s (some l) ∧ l.map Char.toLower = r := by
  rw [contentForm_eq] at h
  obtain ⟨i, k, hi, hk, hmeta, hr⟩ := exists_of_firstFrom_inMeta rfl h
  simp only [exists_content_iff] at hi hk
  have hlast := inValue_picks s k
  rw [hr] at hlast
  cases hlast with
  | @found j _ hj hvalue =>
    obtain ⟨l, hl, rfl⟩ := hvalue
    refine ⟨l, .byContent hnone hi hk (j := j) ?_ ⟨hmeta, hl⟩, rfl⟩
    have hplaces : {j | ∃ l, IsContent s i k j l}
        = {j | ∃ r l, IsValue s k j l ∧ l.map Char.toLower = r} := by
      ext j
      rw [Set.mem_ofPred_eq, Set.mem_ofPred_eq, exists_comm]
      simp only [exists_and_left, exists_eq', and_true]
      exact exists_congr fun l => ⟨IsContent.value, fun h => ⟨hmeta, h⟩⟩
    rwa [hplaces]

theorem exists_declares (s : List Char) :
    ∃ o, Declares s o ∧
      (attributeForm (s.map Char.toLower) <|> contentForm (s.map Char.toLower))
        = o.map (List.map Char.toLower) := by
  rcases hattribute : attributeForm (s.map Char.toLower) with _ | r
  · have hnone := attributeForm_eq_none_iff.mp hattribute
    rcases hcontent : contentForm (s.map Char.toLower) with _ | r
    · exact ⟨none, .nothing hnone (contentForm_eq_none_iff.mp hcontent), rfl⟩
    · obtain ⟨l, hl, rfl⟩ := declares_of_contentForm hnone hcontent
      exact ⟨some l, hl, rfl⟩
  · obtain ⟨l, hl, rfl⟩ := declares_of_attributeForm hattribute
    exact ⟨some l, hl, rfl⟩

/-! ## There is one answer -/

theorem Declares.unique {o o' : Option (List Char)} (h : Declares s o) (h' : Declares s o') :
    o = o' := by
  cases h with
  | byAttribute hi hj h =>
    cases h' with
    | byAttribute hi' hj' h' =>
      obtain rfl := hi.unique hi'
      obtain rfl := hj.unique hj'
      rw [h.label.unique h'.label]
    | byContent hnone => exact absurd h (hnone _ _ _)
    | nothing hnone => exact absurd h (hnone _ _ _)
  | byContent hnone hi hk hj h =>
    cases h' with
    | byAttribute _ _ h' => exact absurd h' (hnone _ _ _)
    | byContent _ hi' hk' hj' h' =>
      obtain rfl := hi.unique hi'
      obtain rfl := hk.unique hk'
      obtain rfl := hj.unique hj'
      rw [h.value.label.unique h'.value.label]
    | nothing _ hcontent => exact absurd h (hcontent _ _ _ _)
  | nothing hnone hcontent =>
    cases h' with
    | byAttribute _ _ h' => exact absurd h' (hnone _ _ _)
    | byContent _ _ _ _ h' => exact absurd h' (hcontent _ _ _ _)
    | nothing => rfl

/-! ## What a label is made of -/

/-- A label that is declared stands in the text. -/
theorem Declares.exists_suffix (h : Declares s (some l)) :
    ∃ u, u <:+ s ∧ StartsWithLabel u l := by
  cases h with
  | @byAttribute i j _ _ _ h =>
    obtain ⟨u, hu, hlabel⟩ := h.label.exists_suffix
    exact ⟨u, hu.trans (List.drop_suffix _ _), hlabel⟩
  | @byContent i k j _ _ _ _ _ h => exact ⟨_, List.drop_suffix _ _, h.value.label⟩

/-- The name is in small letters and has nothing in it that would end a label. -/
def IsPlain (name : String) : Prop :=
  name ≠ "" ∧ ∀ c ∈ name.toList,
    c.toNat < 0x80 ∧ ¬ c.isUpper ∧ ¬ Text.isBlank c ∧ c ∉ ['"', '\'', ';', '>']

instance : DecidablePred IsPlain := fun name =>
  @instDecidableAnd _ _ inferInstance (List.decidableBAll _ name.toList)

theorem StartsWithLabel.isPlain (h : StartsWithLabel u l) (hascii : ∀ c ∈ u, c.toNat < 0x80) :
    IsPlain (.ofList (l.map Char.toLower)) := by
  constructor
  · simpa [String.ext_iff] using h.ne_nil
  · intro c hc
    obtain ⟨d, hd, rfl⟩ := List.mem_map.mp (String.toList_ofList ▸ hc)
    have hlabel : isLabelChar d.toLower := (isLabelChar_toLower d).trans (h.all d hd)
    exact ⟨toNat_toLower_lt (hascii d (h.subset hd)), isUpper_toLower d, isLabelChar_iff.mp hlabel⟩

theorem remap_cases (label : String) :
    remap label = label ∧ label ∉ remapped.map Prod.fst ∨ remap label ∈ remapped.map Prod.snd := by
  rw [remap]
  rcases hfound : remapped.lookup label with _ | name
  · refine .inl ⟨rfl, fun hmem => ?_⟩
    obtain ⟨entry, hentry, rfl⟩ := List.mem_map.mp hmem
    simpa using List.lookup_eq_none_iff.mp hfound entry hentry
  · obtain ⟨before, after, heq, -⟩ := List.lookup_eq_some_iff.mp hfound
    exact .inr (List.mem_map.mpr ⟨(label, name), by simp [heq], rfl⟩)

theorem isPlain_remap {label : String} (h : IsPlain label) : IsPlain (remap label) := by
  rcases remap_cases label with ⟨heq, -⟩ | hmem
  · rwa [heq]
  · exact (by decide : ∀ name ∈ remapped.map Prod.snd, IsPlain name) _ hmem

theorem remap_notMem (label : String) : remap label ∉ remapped.map Prod.fst := by
  rcases remap_cases label with ⟨heq, hnot⟩ | hmem
  · rwa [heq]
  · exact (by decide : ∀ name ∈ remapped.map Prod.snd, name ∉ remapped.map Prod.fst) _ hmem

theorem searched_eq (bs : List UInt8) : searched bs = (headText bs).map Char.toLower := by
  rw [headText, List.map_map]
  rfl

theorem toNat_lt_of_mem_headText {c : Char} (h : c ∈ headText bs) : c.toNat < 0x80 := by
  obtain ⟨b, hb, rfl⟩ := List.mem_map.mp h
  have hlt : b.toNat < 0x80 :=
    UInt8.lt_iff_toNat_lt.mp (of_decide_eq_true (List.mem_filter.mp hb).2)
  exact (by decide : ∀ n < 0x80, (Char.ofNat n).toNat < 0x80) _ hlt

theorem detect_of_declares {o : Option (List Char)} (h : Declares (headText bs) o) :
    detect bs = o.elim "utf-8" fun l => remap (.ofList (l.map Char.toLower)) := by
  obtain ⟨o', ho', hforms⟩ := exists_declares (headText bs)
  obtain rfl := h.unique ho'
  rw [detect, searched_eq, hforms]
  cases o <;> rfl

/-- The start of a page declares one label or none. What is detected is that label in small letters
and as it is to be read, or `utf-8`; it is always plain, and nothing that is read as something
else. -/
theorem detect_spec (bs : List UInt8) :
    (∃ found, (∀ o, Declares (headText bs) o ↔ o = found) ∧
      detect bs = found.elim "utf-8" fun l => remap (.ofList (l.map Char.toLower))) ∧
    IsPlain (detect bs) ∧ detect bs ∉ remapped.map Prod.fst := by
  obtain ⟨found, hfound, hforms⟩ := exists_declares (headText bs)
  have hdetect : detect bs
      = found.elim "utf-8" fun l => remap (.ofList (l.map Char.toLower)) := by
    rw [detect, searched_eq, hforms]
    rcases found with _ | l <;> rfl
  refine ⟨⟨found, fun o => ⟨fun h => h.unique hfound, fun h => h ▸ hfound⟩, hdetect⟩, ?_⟩
  rw [hdetect]
  rcases found with _ | l
  · exact ⟨by decide, by decide⟩
  · obtain ⟨u, hu, hlabel⟩ := hfound.exists_suffix
    exact ⟨isPlain_remap (hlabel.isPlain fun c hc => toNat_lt_of_mem_headText (hu.subset hc)),
      remap_notMem _⟩

/-- An empty label declares nothing, so the second element decides, and in it the last label. -/
example : detect ("<meta charset=''><META charset=utf-8 Charset= Latin1>".toList.map
    fun c => c.toNat.toUInt8) = "windows-1252" := by decide

end PageAudit.Charset
