import Mathlib.Data.List.Forall2
import PageAudit.Audit.Ledger

/-!
# An audit reports what evaluation finds

An auditor goes through the categories step by step, with notes in between; evaluation goes through
them at once. The issues are the same (`issues_auditDocument`), so an audit ends as
`evaluateMarkup` does with the auditor's reader: with its issues, under the warnings of the document
and the name that was given, or with its error (`agrees_audit`). What was served before, and what
has become of it in the ledger, makes no difference (`serveAll_agrees`).
-/

namespace PageAudit

open Audit

namespace Auditor

/-- The loop over the categories gathers what each of them finds, in order. -/
theorem fst_checkAll (a : Auditor) (page : Page) :
    ∀ cs : List Category, (a.checkAll page cs).1 = cs.flatMap page.check
  | [] => rfl
  | c :: cs => by
    simp only [checkAll, List.flatMap_cons, fst_checkAll a page cs]

theorem fst_auditDocument (a : Auditor) (d : Document) (source : Option String) :
    (a.auditDocument d source).1 = ⟨source, d.page.evaluate, d.warnings⟩ := by
  simp only [auditDocument, fst_checkAll, Page.evaluate]

/-- The name of the reader that an auditor asks for. -/
def asked (a : Auditor) : Option String :=
  a.reader.map Reader.label

theorem result_audit_of_error {a : Auditor} {readers : Readers} {markup : Source}
    {e : Document.Error} (source : Option String)
    (h : (Document.read readers markup a.asked).result = .error e) :
    (a.audit readers markup source).result = .error (.document e)
      ∧ (evaluateMarkup readers markup a.asked).result = .error e := by
  simp only [asked] at h
  simp only [audit, evaluateMarkup, asked, h, and_self]

theorem result_audit_of_ok {a : Auditor} {readers : Readers} {markup : Source} {d : Document}
    (source : Option String) (h : (Document.read readers markup a.asked).result = .ok d) :
    (a.audit readers markup source).result = .ok ⟨source, d.page.evaluate, d.warnings⟩
      ∧ (evaluateMarkup readers markup a.asked).result = .ok d.page.evaluate := by
  simp only [asked] at h
  simp only [audit, evaluateMarkup, asked, h, fst_auditDocument, and_self]

/-- An audit has ended as evaluating the markup with the auditor's reader does: with a report of
the issues found, the warnings of the document and the name that was given, or with the error. -/
def Agrees (a : Auditor) (readers : Readers) (r : Request)
    (result : Except Audit.Error Report) : Prop :=
  let evaluated := (evaluateMarkup readers r.markup a.asked).result
  (∀ report, result = .ok report ↔ evaluated = .ok report.issues
      ∧ (∃ d, (Document.read readers r.markup a.asked).result = .ok d
        ∧ report.warnings = d.warnings)
      ∧ report.source = r.source)
    ∧ ∀ e, result = .error e ↔ ∃ e', e = .document e' ∧ evaluated = .error e'

theorem agrees_audit (a : Auditor) (readers : Readers) (r : Request) :
    a.Agrees readers r (a.audit readers r.markup r.source).result := by
  rcases hread : (Document.read readers r.markup a.asked).result with e | d
  · obtain ⟨haudit, heval⟩ := result_audit_of_error r.source hread
    refine ⟨fun report => ?_, fun e' => ?_⟩
    · simp [haudit, heval]
    · simp [haudit, heval, eq_comm]
  · obtain ⟨haudit, heval⟩ := result_audit_of_ok r.source hread
    refine ⟨fun report => ?_, fun e => ?_⟩
    · obtain ⟨source, issues, warnings⟩ := report
      simp only [haudit, heval, hread, Except.ok.injEq, Report.mk.injEq]
      constructor
      · rintro ⟨rfl, rfl, rfl⟩
        exact ⟨rfl, ⟨d, rfl, rfl⟩, rfl⟩
      · rintro ⟨rfl, ⟨_, rfl, rfl⟩, rfl⟩
        exact ⟨rfl, rfl, rfl⟩
    · simp [haudit, heval]

/-- However many requests an auditor has served, with whatever outcome and under whatever loggers,
its next audit still ends as evaluation does. -/
theorem serveAll_agrees (a : Auditor) (readers : Readers) :
    ∀ (l : Ledger) (rs : List Request),
      List.Forall₂ (a.Agrees readers) rs (a.serveAll readers l rs).2
  | _, [] => .nil
  | _, r :: rs => .cons (agrees_audit a readers r) (serveAll_agrees a readers _ rs)

end Auditor

end PageAudit
