import Mathlib.Data.List.Nodup
import PageAudit.Proofs.Report.Checked

/-!
# The form of a report

What a report has to look like as JSON is said place by place: at the end of each path stands a
value, or nothing, and a form says what may stand there (`Place.flaw?`). A value gives rise to its
places in a fixed order (`Report.places`), and reading it finds what is wrong with them, one by one
and in that order (`Report.violations_ofJson`). No two of the places are the same if no issue has a
key twice (`Report.nodup_places`).

A report is read if nothing is wrong, and then it holds the values that stand in these places
(`Report.ofJson_spec`).
-/

namespace PageAudit

/-- The value at the end of a path, if there is one. -/
def Json.at? (j : Json) : List PathStep → Option Json
  | [] => some j
  | .key k :: path => (j.field? k).bind (·.at? path)
  | .index i :: path => j.items[i]?.bind (·.at? path)

/-- What may stand at a place. -/
inductive Form where
  | record (name : String)
  | list
  | word (words : List String)
  | filledText
  | text
  | textOrNull
  | nothing

/-- What is wrong with a value that stands where something of this form is to stand. -/
def Form.flaw? : Form → Json → Option Flaw
  | record _, .obj _ => none
  | record name, _ => some (.notRecord name)
  | list, .arr _ => none
  | list, _ => some .notList
  | word words, .str s => if s ∈ words then none else some (.notOneOf words)
  | word words, _ => some (.notOneOf words)
  | filledText, .str s => if s = "" then some .tooShort else none
  | filledText, _ => some .notText
  | text, .str _ => none
  | text, _ => some .notText
  | textOrNull, .str _ => none
  | textOrNull, .null => none
  | textOrNull, _ => some .notText
  | nothing, _ => some .unexpected

/-- A place in a value, with the form that is required there. The place itself may be required. -/
structure Place where
  path : List PathStep
  form : Form
  required : Bool := false

namespace Place

/-- What is wrong at a place. -/
def flaw? (j : Json) (p : Place) : Option Flaw :=
  match j.at? p.path with
  | some x => p.form.flaw? x
  | none => if p.required then some .missing else none

/-- The violation at a place, if something is wrong there. -/
def violation? (j : Json) (p : Place) : Option Violation :=
  (p.flaw? j).map fun flaw => ⟨p.path, flaw⟩

/-- The place as one in a whole in which the value is found by this step. -/
def under (step : PathStep) (p : Place) : Place :=
  { p with path := step :: p.path }

end Place

/-- What is wrong with a value, place by place. -/
def Json.violationsAt (j : Json) (ps : List Place) : List Violation :=
  ps.filterMap (Place.violation? j)

/-- The fields of an issue, each of them required, in the order in which they are declared. -/
def Issue.fields : List (String × Form) :=
  [("category", .word ["SEO", "Accessibility", "Structure", "Performance"]),
    ("severity", .word ["error", "warning", "info"]), ("title", .filledText),
    ("description", .filledText), ("suggestion", .filledText)]

/-- The fields of an issue, and after them every other key that there is. -/
def Issue.places : Json → List Place
  | .obj ms => ⟨[], .record "Issue", true⟩
    :: (fields.map fun (k, form) => ⟨[.key k], form, true⟩)
      ++ (Json.others keys ms).map fun m => ⟨[.key m.1], .nothing, false⟩
  | _ => [⟨[], .record "Issue", true⟩]

/-- A list under a key, and the places of its items. -/
def Json.listPlaces (j : Json) (key : String) (item : Json → List Place) : List Place :=
  ⟨[.key key], .list, false⟩ :: ((j.field? key).elim [] items).zipIdx.flatMap fun p =>
    (item p.1).map fun q => (q.under (.index p.2)).under (.key key)

/-- Other keys of a report are no places of it. -/
def Report.places (j : Json) : List Place :=
  ⟨[], .record "AuditReport", true⟩ :: ⟨[.key "source"], .textOrNull, false⟩
    :: (j.listPlaces "issues" Issue.places
      ++ j.listPlaces "warnings" fun _ => [⟨[], .text, true⟩])

/-! ## Single values -/

/-- The check finds what is wrong by the form. -/
def Form.IsCheckedBy {α : Type} (form : Form) (check : Json → Checked α) : Prop :=
  ∀ x, (check x).violations = ((form.flaw? x).map fun flaw => ⟨[], flaw⟩).toList

namespace Form

variable {α : Type}

theorem isCheckedBy_text : text.IsCheckedBy Json.text := by
  intro x
  cases x <;> rfl

theorem isCheckedBy_textOrNull : textOrNull.IsCheckedBy Json.textOrNull := by
  intro x
  cases x <;> rfl

theorem isCheckedBy_filledText : filledText.IsCheckedBy Json.nonEmptyText := by
  intro x
  cases x with
  | str s =>
    by_cases hs : s = ""
    · subst hs
      rfl
    · rw [Json.nonEmptyText_str hs, flaw?, if_neg hs]
      rfl
  | _ => rfl

theorem isCheckedBy_word {words : List String} {find? : String → Option α}
    (h : ∀ s, find? s = none ↔ s ∉ words) : (word words).IsCheckedBy (Json.word words find?) := by
  intro x
  cases x with
  | str s =>
    rw [Json.word, Json.str?, Option.bind_some, flaw?]
    rcases hs : find? s with _ | a
    · rw [if_neg ((h s).mp hs)]
      rfl
    · have hmem : s ∈ words := by
        by_contra hnot
        rw [(h s).mpr hnot] at hs
        cases hs
      rw [if_pos hmem]
      rfl
  | _ => rfl

end Form

/-! ## Values within values -/

namespace Json

variable {j x : Json} {step : PathStep} {key : String} {ms : List (String × Json)}

theorem at?_cons (j : Json) (step : PathStep) (path : List PathStep) :
    j.at? (step :: path) = (j.at? [step]).bind (·.at? path) := by
  cases step <;> simp [at?]

theorem violationsAt_cons (j : Json) (p : Place) (ps : List Place) :
    j.violationsAt (p :: ps) = (p.violation? j).toList ++ j.violationsAt ps := by
  rw [violationsAt, List.filterMap_cons]
  cases p.violation? j <;> rfl

theorem map_path_violationsAt_sublist (j : Json) (ps : List Place) :
    ((j.violationsAt ps).map Violation.path).Sublist (ps.map Place.path) := by
  induction ps with
  | nil => exact .slnil
  | cons p ps ih =>
    rw [violationsAt_cons, Place.violation?]
    cases p.flaw? j with
    | none => exact ih.cons _
    | some flaw => exact ih.cons_cons _

theorem violationsAt_append (j : Json) (ps qs : List Place) :
    j.violationsAt (ps ++ qs) = j.violationsAt ps ++ j.violationsAt qs :=
  List.filterMap_append

/-- What is wrong within a value is wrong at the same place below the step that leads to it. -/
theorem violationsAt_under (h : j.at? [step] = some x) (ps : List Place) :
    j.violationsAt (ps.map (Place.under step))
      = (x.violationsAt ps).map (Violation.under step) := by
  rw [violationsAt, violationsAt, List.filterMap_map, List.map_filterMap]
  refine List.filterMap_congr fun p _ => ?_
  rw [Function.comp_apply, Place.violation?, Place.violation?, Place.flaw?, Place.flaw?,
    Place.under, at?_cons, h, Option.bind_some, Option.map_map]
  rfl

section Member

variable {α : Type} {form : Form} {check : Json → Checked α} (h : form.IsCheckedBy check)

include h

theorem violations_required (key : String) (ms : List (String × Json)) :
    (required key check ms).violations
      = (Place.violation? (.obj ms) ⟨[.key key], form, true⟩).toList := by
  rw [required, Checked.violations_under, Place.violation?, Place.flaw?, at?, field?]
  cases ms.lookup key with
  | none => rfl
  | some x =>
    simp only [h x, Option.bind_some, at?]
    cases form.flaw? x <;> rfl

theorem violations_optional (key : String) (d : α) (ms : List (String × Json)) :
    (optional key check d ms).violations
      = (Place.violation? (.obj ms) ⟨[.key key], form, false⟩).toList := by
  rw [optional, Checked.violations_under, Place.violation?, Place.flaw?, at?, field?]
  cases ms.lookup key with
  | none => rfl
  | some x =>
    simp only [h x, Option.bind_some, at?]
    cases form.flaw? x <;> rfl

end Member

theorem violations_noOther_eq (keys : List String) (ms : List (String × Json)) :
    (noOther keys ms).violations = violationsAt (.obj ms)
      ((others keys ms).map fun m => ⟨[.key m.1], .nothing, false⟩) := by
  rw [violations_noOther, violationsAt, List.filterMap_map, ← List.filterMap_eq_map]
  refine List.filterMap_congr fun m hm => ?_
  obtain ⟨x, hx⟩ : ∃ x, ms.lookup m.1 = some x := by
    rw [← Option.ne_none_iff_exists', ne_eq, List.lookup_eq_none_iff]
    exact fun hnone => by simpa using hnone m (List.mem_of_mem_filter hm)
  simp [Place.violation?, Place.flaw?, at?, field?, hx, Form.flaw?]

/-! ## Lists -/

section List

variable {α : Type} {check : Json → Checked α} {places : Json → List Place}
  (h : ∀ x, (check x).violations = x.violationsAt (places x))

include h

theorem violations_list (x : Json) :
    (x.list check).violations = ((Form.list.flaw? x).map fun flaw => ⟨[], flaw⟩).toList
      ++ x.violationsAt (x.items.zipIdx.flatMap fun p =>
        (places p.1).map (Place.under (.index p.2))) := by
  cases x with
  | arr xs =>
    rw [list, Checked.violations_each, items, violationsAt, List.filterMap_flatMap]
    refine List.flatMap_congr fun p hp => ?_
    have hstep : (arr xs).at? [.index p.2] = some p.1 := by
      rw [at?, items, List.mem_zipIdx_iff_getElem?.mp hp]
      rfl
    rw [h]
    exact (violationsAt_under hstep _).symm
  | _ => rfl

theorem violations_listPlaces (key : String) (ms : List (String × Json)) :
    (optional key (list check) [] ms).violations
      = violationsAt (.obj ms) (listPlaces (.obj ms) key places) := by
  rw [optional, Checked.violations_under, listPlaces, violationsAt_cons, field?]
  rcases hx : ms.lookup key with _ | x
  · simp [Place.violation?, Place.flaw?, at?, field?, hx, violationsAt, Checked.violations]
  · have hstep : (obj ms).at? [.key key] = some x := by
      rw [at?, field?, hx]
      rfl
    have hitems : (x.items.zipIdx.flatMap fun p =>
        (places p.1).map fun q => (q.under (.index p.2)).under (.key key))
        = (x.items.zipIdx.flatMap fun p =>
          (places p.1).map (Place.under (.index p.2))).map (Place.under (.key key)) := by
      simp only [List.map_flatMap, List.map_map, Function.comp_def]
    have hlist : Place.violation? (.obj ms) ⟨[.key key], .list, false⟩
        = (Form.list.flaw? x).map fun flaw => ⟨[.key key], flaw⟩ := by
      rw [Place.violation?, Place.flaw?, hstep]
    simp only [Option.elim_some]
    rw [hitems, violationsAt_under hstep, violations_list h, List.map_append, hlist]
    cases Form.list.flaw? x <;> rfl

end List

end Json

/-! ## Issues and reports -/

theorem Category.ofLabel?_eq_none_iff (s : String) :
    ofLabel? s = none ↔ s ∉ all.map label := by
  simp [ofLabel?, List.find?_eq_none]

theorem Severity.ofLabel?_eq_none_iff (s : String) :
    ofLabel? s = none ↔ s ∉ all.map label := by
  simp [ofLabel?, List.find?_eq_none]

theorem Issue.violations_ofJson (x : Json) : (ofJson x).violations = x.violationsAt (places x) := by
  cases x with
  | obj ms =>
    have hcategory := Json.violations_required
      (Form.isCheckedBy_word Category.ofLabel?_eq_none_iff) "category" ms
    have hseverity := Json.violations_required
      (Form.isCheckedBy_word Severity.ofLabel?_eq_none_iff) "severity" ms
    have hfilled := fun key => Json.violations_required Form.isCheckedBy_filledText key ms
    have hrecord : Place.violation? (.obj ms) ⟨[], .record "Issue", true⟩ = none := rfl
    simp only [ofJson, Checked.violations_map, Checked.violations_both, hfilled,
      Json.violations_noOther_eq, places, fields, List.map_cons, List.map_nil,
      Json.violationsAt_append, Json.violationsAt_cons, hrecord, Option.toList_none,
      List.nil_append, List.append_assoc]
    exact congrArg₂ _ hcategory (congrArg₂ _ hseverity rfl)
  | _ => rfl

theorem Report.violations_ofJson (j : Json) :
    (ofJson j).violations = j.violationsAt (places j) := by
  cases j with
  | obj ms =>
    have htext : ∀ x : Json, x.text.violations = x.violationsAt [⟨[], .text, true⟩] := by
      intro x
      rw [Form.isCheckedBy_text x, Json.violationsAt_cons]
      cases x <;> rfl
    simp only [ofJson, Checked.violations_map, Checked.violations_both,
      Json.violations_optional Form.isCheckedBy_textOrNull,
      Json.violations_listPlaces Issue.violations_ofJson, Json.violations_listPlaces htext]
    rw [places, Json.violationsAt_cons, Json.violationsAt_cons, Json.violationsAt_append]
    rfl
  | _ => rfl

/-! ## Each place once -/

theorem Issue.nodup_places {x : Json} (h : (x.members.map Prod.fst).Nodup) :
    ((places x).map Place.path).Nodup := by
  cases x with
  | obj ms =>
    have hpaths : (places (.obj ms)).map Place.path
        = [] :: (keys ++ (Json.others keys ms).map Prod.fst).map fun k => [.key k] := by
      simp [places, fields, keys, Function.comp_def]
    have hkeys : keys.Nodup := by decide
    have hothers : ((Json.others keys ms).map Prod.fst).Nodup :=
      h.sublist (List.filter_sublist.map Prod.fst)
    have hapart : List.Disjoint keys ((Json.others keys ms).map Prod.fst) := by
      intro k hk hother
      obtain ⟨m, hm, rfl⟩ := List.mem_map.mp hother
      simpa [hk] using (List.mem_filter.mp hm).2
    have hinjective : Function.Injective fun k => [PathStep.key k] := by
      intro k l hkl
      simpa using hkl
    rw [hpaths, List.nodup_cons]
    exact ⟨by simp, (hkeys.append hothers hapart).map hinjective⟩
  | _ => exact List.nodup_singleton _

namespace Json

variable {j : Json} {key : String} {item : Json → List Place} {p : Place}

theorem path_of_mem_listPlaces (hp : p ∈ j.listPlaces key item) :
    ∃ path, p.path = .key key :: path := by
  rcases List.mem_cons.mp hp with rfl | hp
  · exact ⟨[], rfl⟩
  · obtain ⟨_, -, hp⟩ := List.mem_flatMap.mp hp
    obtain ⟨q, -, rfl⟩ := List.mem_map.mp hp
    exact ⟨_, rfl⟩

theorem nodup_listPlaces
    (h : ∀ x ∈ (j.field? key).elim [] items, ((item x).map Place.path).Nodup) :
    ((j.listPlaces key item).map Place.path).Nodup := by
  have hpaths : (j.listPlaces key item).map Place.path
      = [.key key] :: ((j.field? key).elim [] items).zipIdx.flatMap fun p =>
        ((item p.1).map Place.path).map fun path => .key key :: .index p.2 :: path := by
    simp only [listPlaces, List.map_cons, List.map_flatMap, List.map_map, Place.under,
      Function.comp_def]
  have hindex : ((j.field? key).elim [] items).zipIdx.Pairwise fun p q => p.2 ≠ q.2 := by
    rw [← List.pairwise_map, List.zipIdx_map_snd]
    exact List.nodup_range'
  rw [hpaths, List.nodup_cons, List.nodup_flatMap]
  refine ⟨by simp, fun p hp => ?_, hindex.imp fun {p q} hne => ?_⟩
  · refine (h p.1 (List.fst_mem_of_mem_zipIdx hp)).map fun path path' hpath => ?_
    simpa using hpath
  · intro path hp hq
    obtain ⟨_, -, rfl⟩ := List.mem_map.mp hp
    obtain ⟨_, -, heq⟩ := List.mem_map.mp hq
    simp [hne.symm] at heq

end Json

/-- If no issue has a key twice, no two places of a report are the same. -/
theorem Report.nodup_places {j : Json}
    (h : ∀ x ∈ (j.field? "issues").elim [] Json.items, (x.members.map Prod.fst).Nodup) :
    ((places j).map Place.path).Nodup := by
  have hissues := Json.nodup_listPlaces fun x hx => Issue.nodup_places (h x hx)
  have hwarnings : ((j.listPlaces "warnings" fun _ => [⟨[], .text, true⟩]).map Place.path).Nodup :=
    Json.nodup_listPlaces fun x _ => List.nodup_singleton _
  have hstarts {key : String} {item : Json → List Place} {path : List PathStep}
      (hp : path ∈ (j.listPlaces key item).map Place.path) : ∃ rest, path = .key key :: rest := by
    obtain ⟨p, hmem, rfl⟩ := List.mem_map.mp hp
    exact Json.path_of_mem_listPlaces hmem
  have happend := hissues.append hwarnings fun path hi hw => by
    obtain ⟨_, rfl⟩ := hstarts hi
    obtain ⟨_, heq⟩ := hstarts hw
    simp at heq
  rw [places, List.map_cons, List.map_cons, List.nodup_cons, List.nodup_cons, List.map_append]
  refine ⟨fun hroot => ?_, fun hsource => ?_, happend⟩
  · rcases List.mem_cons.mp hroot with heq | hroot
    · simp at heq
    · rcases List.mem_append.mp hroot with hroot | hroot <;> simpa using hstarts hroot
  · rcases List.mem_append.mp hsource with hsource | hsource <;> simpa using hstarts hsource

end PageAudit
