import Mathlib.Data.List.Nodup
import PageAudit.Document
import PageAudit.Proofs.Report.Json

/-!
# Failures as JSON

Whatever is wrong with markup that can be decoded is a failure to parse (`kind_of_failure?`). Each
reader is tried at most once, so the failures of a page that no reader could read are those of
different readers (`nodup_of_readWith`). This is what makes the response to any failure plain
(`isPlain_response`): no two of its details have the same key.
-/

namespace PageAudit

open Json

theorem Reader.ofLabel?_label (r : Reader) : ofLabel? r.label = some r := by
  cases r <;> rfl

theorem Reader.ofLabel?_eq_none_iff {name : String} : ofLabel? name = none ↔ name ∉ labels := by
  simp [ofLabel?, labels, List.find?_eq_none]

theorem Reader.label_injective : Function.Injective label := by
  intro r s h
  rw [← Option.some.injEq, ← ofLabel?_label r, h, ofLabel?_label s]

namespace Document

namespace Error

variable {e : Error} {f : Failure}

theorem kind_of_failure? (h : e.failure? = some f) : f.kind = .parse := by
  cases e <;> cases h <;> rfl

theorem message_of_failure? (h : e.failure? = some f) : e.message = f.message := by
  cases e <;> cases h <;> rfl

end Error

variable {readers : Readers} {asked : Option String}

theorem unknownReader_of_chain {e : Error} (h : chain asked = .error e) :
    ∃ name, e = .unknownReader name := by
  unfold chain at h
  split at h
  · cases h
  · split at h
    · cases h
    · cases h
      exact ⟨_, rfl⟩

theorem nodup_of_readWith {text : String} {reasons : List (Reader × String)} :
    ∀ {rs : List Reader} {failures : List (Reader × String)},
      (failures.map Prod.fst ++ rs).Nodup →
      (readWith readers text failures rs).result = .error (.unreadable reasons) →
      (reasons.map Prod.fst).Nodup
  | [], failures, hnodup, h => by
    cases h
    simpa using hnodup
  | r :: rs, failures, hnodup, h => by
    simp only [readWith] at h
    split at h
    · exact nodup_of_readWith (by simpa using hnodup) h
    · cases h

theorem nodup_of_chain {rs : List Reader} (h : chain asked = .ok rs) : rs.Nodup := by
  unfold chain at h
  split at h
  · cases h
    decide
  · split at h
    · cases h
      exact List.nodup_singleton _
    · cases h

theorem nodup_of_readText {text : String} {reasons : List (Reader × String)}
    (h : (readText readers asked text).result = .error (.unreadable reasons)) :
    (reasons.map Prod.fst).Nodup := by
  unfold readText at h
  split at h
  · cases h
  · split at h
    · rename_i e he
      obtain ⟨name, rfl⟩ := unknownReader_of_chain he
      cases h
    · rename_i rs hrs
      exact nodup_of_readWith (by simpa using nodup_of_chain hrs) h

theorem nodup_of_read {markup : Source} {reasons : List (Reader × String)}
    (h : (read readers markup asked).result = .error (.unreadable reasons)) :
    (reasons.map Prod.fst).Nodup := by
  cases markup with
  | other kind => cases h
  | text text => exact nodup_of_readText h
  | bytes bs =>
    simp only [read] at h
    split at h
    · cases h
    · exact nodup_of_readText h

/-- The details of a failure to read markup have no key twice. -/
theorem isPlain_response {markup : Source} {e : Error} {f : Failure}
    (h : (read readers markup asked).result = .error e) (hf : e.failure? = some f) :
    IsPlain (.obj f.response) := by
  have hdetails : IsPlain (.obj f.details) := by
    cases e with
    | notMarkup kind =>
      cases hf
      exact .obj (by simp) (by simp [IsPlain.str])
    | blank =>
      cases hf
      exact .obj (by simp) (by simp)
    | unknownReader name =>
      cases hf
      exact .obj (by simp) (by simp [IsPlain.str, isPlain_strs])
    | unreadable reasons =>
      cases hf
      have hlabels := (nodup_of_read h).map Reader.label_injective
      refine .cons (by simp) (.obj ?_ fun m hm => ?_) (.obj (by simp) (by simp))
      · simpa [Function.comp_def] using hlabels
      · obtain ⟨_, -, rfl⟩ := List.mem_map.mp hm
        exact .str _
    | undecodable e => cases hf
  refine .obj (by simp [Failure.response]) ?_
  simp only [Failure.response, List.mem_cons, List.not_mem_nil, or_false]
  rintro m (rfl | rfl | rfl)
  · exact .str _
  · exact .str _
  · exact hdetails

end Document

end PageAudit
