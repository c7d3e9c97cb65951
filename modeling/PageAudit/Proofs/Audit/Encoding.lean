import PageAudit.Audit.Timeline
import PageAudit.Markup.Readers
import PageAudit.Proofs.Charset.Utf8

/-!
# A text and its bytes

Bytes that declare UTF-8, or nothing at all, are decoded as UTF-8 and without a word about it
(`Charset.decode_of_detect`). The bytes of a text are therefore read as the text itself, and all
that is made of them is the same: the document or the error, the issues, the report and whatever
goes into the log (`Auditor.audit_toUTF8`).
-/

namespace PageAudit

namespace Charset

theorem lookup_utf8 : lookup "utf-8" = some .utf8 :=
  rfl

theorem decode_of_detect {bs : List UInt8} (t : Tables) (h : detect bs = "utf-8") :
    decode t bs = .ok ⟨.ofList (Utf8.decode bs), []⟩ := by
  rw [decode, h, decodeAs, if_neg (by decide), lookup_utf8]
  rfl

theorem decode_toUTF8 {s : String} (t : Tables) (h : detect s.toUTF8.toList = "utf-8") :
    decode t s.toUTF8.toList = .ok ⟨s, []⟩ := by
  rw [decode_of_detect t h, Utf8.decode_toUTF8, String.ofList_toList]

end Charset

/-- A text that is decoded from bytes without a word in the log is read like any other. -/
theorem Document.read_bytes_eq {bs : List UInt8} {s : String} {readers : Readers}
    (h : Charset.decode readers.tables bs = .ok ⟨s, []⟩) (asked : Option String) :
    read readers (.bytes bs) asked = read readers (.text s) asked := by
  simp only [read, h, List.nil_append]

namespace Auditor

/-- If the bytes of a text in UTF-8 are taken for UTF-8, they are decoded to that text, whatever
characters it starts with and wherever the window for the declaration ends. Whichever reader is
asked for, they give the same document or error as the text, the same issues, and the same audit. -/
theorem audit_toUTF8 {s : String} (h : Charset.detect s.toUTF8.toList = "utf-8")
    (readers : Readers) :
    Charset.decode readers.tables s.toUTF8.toList = .ok ⟨s, []⟩
      ∧ (∀ asked, Document.read readers (.bytes s.toUTF8.toList) asked
          = Document.read readers (.text s) asked)
      ∧ (∀ asked, evaluateMarkup readers (.bytes s.toUTF8.toList) asked
          = evaluateMarkup readers (.text s) asked)
      ∧ ∀ (a : Auditor) (source : Option String),
          a.audit readers (.bytes s.toUTF8.toList) source = a.audit readers (.text s) source := by
  have hdecode := Charset.decode_toUTF8 readers.tables h
  have hread := Document.read_bytes_eq hdecode
  refine ⟨hdecode, hread, fun asked => ?_, fun a source => ?_⟩
  · simp only [evaluateMarkup, hread]
  · simp only [audit, hread]

/-- A page that starts with a byte order mark and has characters of one to four bytes. -/
theorem audit_toUTF8_greeting :
    let s := "\ufeff<meta charset=utf-8><p>Hé, €5 😀"
    Charset.detect s.toUTF8.toList = "utf-8"
      ∧ Charset.decode Markup.readers.tables s.toUTF8.toList = .ok ⟨s, []⟩
      ∧ (∀ asked, Document.read Markup.readers (.bytes s.toUTF8.toList) asked
          = Document.read Markup.readers (.text s) asked)
      ∧ (∀ asked, evaluateMarkup Markup.readers (.bytes s.toUTF8.toList) asked
          = evaluateMarkup Markup.readers (.text s) asked)
      ∧ ∀ (a : Auditor) (source : Option String),
          a.audit Markup.readers (.bytes s.toUTF8.toList) source
            = a.audit Markup.readers (.text s) source := by
  intro s
  have hdetect : Charset.detect s.toUTF8.toList = "utf-8" := by decide +kernel
  exact ⟨hdetect, audit_toUTF8 hdetect Markup.readers⟩

end Auditor

end PageAudit
