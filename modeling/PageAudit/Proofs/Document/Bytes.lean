import PageAudit.Markup.Readers
import PageAudit.Proofs.Charset.Refusal
import PageAudit.Proofs.Document.Failures

/-!
# Reading bytes

Text is always settled: it becomes a document, or it is refused by a failure to parse
(`settled_readText`). Bytes are settled exactly if the label they declare is not refused, and a
label that names no codec has them read as UTF-8 (`settled_read_bytes_iff`). A refused label lets
an error through that is no failure to parse (`not_settled_read_undefined`).
-/

namespace PageAudit.Document

/-- A document or a failure to parse, and no other error. -/
def Settled (result : Except Error Document) : Prop :=
  (∃ d, result = .ok d) ∨ ∃ e f, result = .error e ∧ e.failure? = some f ∧ f.kind = .parse

theorem not_settled_undecodable (e : Charset.Error) : ¬ Settled (.error (.undecodable e)) := by
  rintro (⟨d, hd⟩ | ⟨e', f, he, hf, -⟩)
  · cases hd
  · cases he
    cases hf

theorem settled_readWith (readers : Readers) (text : String) :
    ∀ (rs : List Reader) (failures : List (Reader × String)),
      Settled (readWith readers text failures rs).result
  | [], failures => .inr ⟨_, _, rfl, rfl, rfl⟩
  | r :: rs, failures => by
    simp only [readWith]
    split
    · exact settled_readWith readers text rs _
    · exact .inl ⟨_, rfl⟩

theorem settled_readText (readers : Readers) (asked : Option String) (text : String) :
    Settled (readText readers asked text).result := by
  unfold readText
  split
  · exact .inr ⟨_, _, rfl, rfl, rfl⟩
  · split
    · rename_i e he
      obtain ⟨name, rfl⟩ := unknownReader_of_chain he
      exact .inr ⟨_, _, rfl, rfl, rfl⟩
    · exact settled_readWith readers text _ []

/-- Whatever the readers do and whichever is asked for, and whatever the provided codecs make of
bytes, these become a document or a failure to parse if and only if the label they declare is not
refused; and if that label names no codec, they are read as the text that they are in UTF-8. -/
theorem settled_read_bytes_iff (readers : Readers) (bs : List UInt8) (asked : Option String) :
    (Settled (read readers (.bytes bs) asked).result ↔
        ¬ Charset.IsRefused (Charset.detect bs) bs)
      ∧ (¬ Charset.IsRefused (Charset.detect bs) bs →
          Charset.lookup (Charset.detect bs) = none →
          (read readers (.bytes bs) asked).result
            = (readText readers asked (.ofList (Charset.Utf8.decode bs))).result) := by
  refine ⟨?_, fun hlabel hunknown => ?_⟩
  · rw [← Charset.decodeAs_eq_error_iff readers.tables]
    simp only [read, Charset.decode]
    rcases hd : Charset.decodeAs readers.tables (Charset.detect bs) bs with e | d
    · simpa using not_settled_undecodable e
    · simpa using settled_readText readers asked d.text
  · have hnull : '\x00' ∉ (Charset.detect bs).toList := fun h => hlabel (.inl h)
    simp only [read, Charset.decode, Charset.decodeAs_of_unknown hnull hunknown]

/-- A page that declares a codec which there is not is read as UTF-8. -/
theorem read_unheard_of :
    let bs := "<meta charset=utf-9><p>Hi".toUTF8.toList
    Settled (read Markup.readers (.bytes bs) none).result
      ∧ (read Markup.readers (.bytes bs) none).result
        = (readText Markup.readers none (.ofList (Charset.Utf8.decode bs))).result := by
  intro bs
  have hlabel : Charset.detect bs = "utf-9" := by decide +kernel
  have hname : (Charset.lookupName? (Charset.normalize "utf-9")).isNone := by decide +kernel
  have hlookup : Charset.lookup (Charset.detect bs) = none := by
    rw [hlabel]
    exact Charset.lookup_eq_none (Option.isNone_iff_eq_none.mp hname) (by decide +kernel)
  have hrefused : ¬ Charset.IsRefused (Charset.detect bs) bs :=
    Charset.not_isRefused_of_unknown (by rw [hlabel]; decide) hlookup
  exact ⟨(settled_read_bytes_iff Markup.readers bs none).1.mpr hrefused,
    (settled_read_bytes_iff Markup.readers bs none).2 hrefused hlookup⟩

/-- A page that declares the codec `undefined` is neither read nor refused. -/
theorem not_settled_read_undefined :
    ¬ Settled
      (read Markup.readers (.bytes "<meta charset=undefined><p>Hi".toUTF8.toList) none).result := by
  have hlabel : Charset.detect "<meta charset=undefined><p>Hi".toUTF8.toList = "undefined" := by
    decide +kernel
  intro h
  refine (settled_read_bytes_iff Markup.readers _ none).1.mp h ?_
  rw [hlabel]
  exact .inr (.inl (by decide +kernel))

end PageAudit.Document
