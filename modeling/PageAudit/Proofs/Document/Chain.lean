import PageAudit.Proofs.Audit.Agreement
import PageAudit.Proofs.Charset.Refusal
import PageAudit.Proofs.Document.Failures

/-!
# The chain of readers

What is wrong with markup itself, or with the reader that is asked for, is found before any reader
is tried (`Document.Refuses`). After that the readers are tried in turn. Those that fail are passed
over with a warning each (`Document.readWith_failing`); the first that does not gives the document,
and what the readers after it would have made of the text plays no part (`Document.readWith_congr`).

What reading comes to is thereby settled for all markup (`Document.read_follows_chain`), bytes that
declare a refused label included: these are no failure to parse, whatever the readers would do
(`Document.read_idna`).
-/

namespace PageAudit

/-- The text that markup holds, and what is logged in decoding it. -/
inductive Source.Holds (tables : Charset.Tables) : Source → String → List Log.Record → Prop
  | text (text : String) : Holds tables (.text text) text []
  | bytes {bs : List UInt8} {d : Charset.Decoded} (h : Charset.decode tables bs = .ok d) :
      Holds tables (.bytes bs) d.text d.log

namespace Document

variable {tables : Charset.Tables} {readers readers' : Readers} {markup : Source}
  {asked : Option String} {text : String} {log : List Log.Record}
  {failures : List (Reader × String)} {r : Reader} {rs : List Reader} {nodes : List Node}

/-- The readers to try, in order: the one that is asked for by its name, or all of them. -/
inductive IsChain : Option String → List Reader → Prop
  | all : IsChain none [.browser, .tolerant, .plain]
  | only (r : Reader) : IsChain (some r.label) [r]

/-- Each of these readers fails on the text, for the reason that stands beside it. -/
def AllFail (readers : Readers) (text : String) (failures : List (Reader × String)) : Prop :=
  ∀ f ∈ failures, readers.parse f.1 text = .error f.2

/-- The record of a reader that has failed, and why. -/
def warning (f : Reader × String) : Log.Record :=
  ⟨Log.Level.warning, logger, s!"{f.1.label} parsing failed: {f.2}"⟩

/-- What comes of trying the readers of a chain on a text, after what has been logged before. -/
inductive Follows (readers : Readers) (text : String) (log : List Log.Record) (rs : List Reader) :
    Logged (Except Error Document) → Prop
  | success {failures : List (Reader × String)} {r : Reader} {later : List Reader}
      {nodes : List Node} (hrs : rs = failures.map Prod.fst ++ r :: later)
      (hfail : AllFail readers text failures) (hread : readers.parse r text = .ok nodes) :
      Follows readers text log rs
        ⟨.ok ⟨⟨nodes⟩, r.label, failures.map fun f => s!"{f.1.label} parsing failed: {f.2}"⟩,
          log ++ (failures.map warning ++ [successRecord r text])⟩
  | failure {failures : List (Reader × String)} {e : Error} (hrs : rs = failures.map Prod.fst)
      (hfail : AllFail readers text failures)
      (he : e.failure? = some ⟨.parse, "Failed to parse HTML",
        [("failures", .obj (failures.map fun f => (f.1.label, .str f.2)))]⟩) :
      Follows readers text log rs ⟨.error e, log ++ failures.map warning⟩

/-- Reading comes to this whatever the readers do, so none of them has been tried. -/
def EndsUntried (tables : Charset.Tables) (markup : Source) (asked : Option String) (e : Error)
    (log : List Log.Record) : Prop :=
  ∀ readers : Readers, readers.tables = tables → read readers markup asked = ⟨.error e, log⟩

/-- Reading fails to parse, and no reader has been tried. -/
def Refuses (tables : Charset.Tables) (markup : Source) (asked : Option String) (e : Error)
    (log : List Log.Record) : Prop :=
  (∃ f, e.failure? = some f ∧ f.kind = .parse) ∧ EndsUntried tables markup asked e log

/-- What follows in the chain after a reader that does not fail makes no difference. -/
def IgnoresLater (readers : Readers) (markup : Source) (asked : Option String) (text : String)
    (rs : List Reader) : Prop :=
  ∀ earlier r later nodes, rs = earlier ++ r :: later → readers.parse r text = .ok nodes →
    ∀ readers' : Readers, readers'.tables = readers.tables →
      (∀ b ∈ earlier ++ [r], readers'.parse b text = readers.parse b text) →
      read readers' markup asked = read readers markup asked

/-! ## One reader after the other -/

/-- Readers that fail are passed over, and are kept in mind in their order. -/
theorem readWith_failing (rs : List Reader) :
    ∀ (failures before : List (Reader × String)), AllFail readers text failures →
      readWith readers text before (failures.map Prod.fst ++ rs)
        = readWith readers text (before ++ failures) rs
  | [], before, _ => by simp
  | (r, reason) :: failures, before, h => by
    rw [AllFail, List.forall_mem_cons] at h
    rw [List.map_cons, List.cons_append, readWith, h.1]
    simp only [readWith_failing rs failures _ h.2, List.append_assoc, List.singleton_append]

theorem exists_failing (readers : Readers) (text : String) :
    ∀ rs : List Reader, ∃ failures, AllFail readers text failures ∧
      (rs = failures.map Prod.fst ∨
        ∃ r later nodes, rs = failures.map Prod.fst ++ r :: later ∧
          readers.parse r text = .ok nodes)
  | [] => ⟨[], by simp [AllFail], .inl rfl⟩
  | r :: rs => by
    rcases hread : readers.parse r text with reason | nodes
    · obtain ⟨failures, hfail, hrest⟩ := exists_failing readers text rs
      have hall : AllFail readers text ((r, reason) :: failures) :=
        List.forall_mem_cons.mpr ⟨hread, hfail⟩
      refine ⟨(r, reason) :: failures, hall, ?_⟩
      rcases hrest with rfl | ⟨r', later, nodes, rfl, hread'⟩
      · exact .inl rfl
      · exact .inr ⟨r', later, nodes, rfl, hread'⟩
    · exact ⟨[], by simp [AllFail], .inr ⟨r, rs, nodes, rfl, hread⟩⟩

theorem follows_readWith (readers : Readers) (text : String) (log : List Log.Record)
    (rs : List Reader) :
    Follows readers text log rs ⟨(readWith readers text [] rs).result,
      log ++ (readWith readers text [] rs).log⟩ := by
  obtain ⟨failures, hfail, rfl | ⟨r, later, nodes, rfl, hread⟩⟩ := exists_failing readers text rs
  · have hrun := readWith_failing [] failures [] hfail
    rw [List.append_nil, List.nil_append] at hrun
    rw [hrun]
    exact .failure rfl hfail rfl
  · have hrun := readWith_failing (r :: later) failures [] hfail
    rw [List.nil_append, readWith, hread] at hrun
    rw [hrun]
    exact .success rfl hfail hread

theorem readWith_congr (hread : readers.parse r text = .ok nodes)
    (hr : readers'.parse r text = readers.parse r text) (later : List Reader) :
    ∀ (earlier : List Reader) (failures : List (Reader × String)),
      (∀ b ∈ earlier, readers'.parse b text = readers.parse b text) →
      readWith readers' text failures (earlier ++ r :: later)
        = readWith readers text failures (earlier ++ r :: later)
  | [], failures, _ => by simp only [List.nil_append, readWith, hr, hread]
  | b :: earlier, failures, h => by
    rw [List.forall_mem_cons] at h
    simp only [List.cons_append, readWith, h.1]
    split
    · exact readWith_congr hread hr later earlier _ h.2
    · rfl

/-! ## Before any reader is tried -/

theorem IsChain.chain_eq (h : IsChain asked rs) : chain asked = .ok rs := by
  cases h with
  | all => rfl
  | only r => simp only [chain, Reader.ofLabel?_label]

/-- A name that is asked for is that of a reader or of none. -/
theorem isChain_or_unknown (asked : Option String) :
    (∃ rs, IsChain asked rs) ∨ ∃ name, asked = some name ∧ name ∉ Reader.labels := by
  rcases asked with _ | name
  · exact .inl ⟨_, .all⟩
  · by_cases h : name ∈ Reader.labels
    · obtain ⟨r, -, rfl⟩ := List.mem_map.mp h
      exact .inl ⟨_, .only r⟩
    · exact .inr ⟨name, rfl, h⟩

theorem read_of_holds (h : markup.Holds readers.tables text log) (asked : Option String) :
    read readers markup asked
      = ⟨(readText readers asked text).result, log ++ (readText readers asked text).log⟩ := by
  cases h with
  | text text => rfl
  | bytes h => simp only [read, h]

section Text

variable (h : markup.Holds tables text log)

include h

theorem refuses_blank (hblank : ∀ c ∈ text.toList, Text.isBlank c) :
    Refuses tables markup asked .blank log := by
  refine ⟨⟨_, rfl, rfl⟩, ?_⟩
  rintro readers rfl
  rw [read_of_holds h, readText, if_pos (List.all_eq_true.mpr hblank), List.append_nil]

variable (hfilled : ¬ ∀ c ∈ text.toList, Text.isBlank c)

include hfilled

theorem refuses_unknownReader {name : String} (hname : name ∉ Reader.labels) :
    Refuses tables markup (some name) (.unknownReader name) log := by
  refine ⟨⟨_, rfl, rfl⟩, ?_⟩
  rintro readers rfl
  have hchain : chain (some name) = .error (.unknownReader name) := by
    simp only [chain, Reader.ofLabel?_eq_none_iff.mpr hname]
  rw [read_of_holds h, readText, if_neg (mt List.all_eq_true.mp hfilled), hchain, List.append_nil]

variable (hchain : IsChain asked rs)

include hchain

theorem read_eq_readWith (htables : readers.tables = tables) :
    read readers markup asked
      = ⟨(readWith readers text [] rs).result, log ++ (readWith readers text [] rs).log⟩ := by
  subst htables
  rw [read_of_holds h, readText, if_neg (mt List.all_eq_true.mp hfilled), hchain.chain_eq]

theorem ignoresLater (htables : readers.tables = tables) :
    IgnoresLater readers markup asked text rs := by
  rintro earlier r later nodes rfl hread readers' htables' hsame
  rw [List.forall_mem_append, List.forall_mem_singleton] at hsame
  rw [read_eq_readWith h hfilled hchain (htables'.trans htables),
    read_eq_readWith h hfilled hchain htables,
    readWith_congr hread hsame.2 later earlier [] hsame.1]

end Text

/-! ## All markup -/

/-- A report carries the warnings of the document, and no other. -/
def ReportsWarnings (readers : Readers) (markup : Source) (asked : Option String) : Prop :=
  ∀ d, (read readers markup asked).result = .ok d → ∀ a : Auditor, a.asked = asked →
    ∀ source, ∃ report, (a.audit readers markup source).result = .ok report
      ∧ report.warnings = d.warnings

theorem reportsWarnings (readers : Readers) (markup : Source) (asked : Option String) :
    ReportsWarnings readers markup asked := by
  rintro d hd a rfl source
  exact ⟨_, (Auditor.result_audit_of_ok source hd).1, rfl⟩

/-- A text that is not blank is refused if there is no reader of the name that is asked for, and is
given to the readers of the chain otherwise. -/
def IsTried (tables : Charset.Tables) (markup : Source) (asked : Option String) (text : String)
    (log : List Log.Record) : Prop :=
  (∃ name, asked = some name ∧ name ∉ Reader.labels
    ∧ Refuses tables markup asked (.unknownReader name) log) ∨
  ∃ rs, IsChain asked rs ∧ ∀ readers : Readers, readers.tables = tables →
    Follows readers text log rs (read readers markup asked) ∧
    IgnoresLater readers markup asked text rs ∧
    ReportsWarnings readers markup asked

theorem isTried (h : markup.Holds tables text log) (hfilled : ¬ ∀ c ∈ text.toList, Text.isBlank c)
    (asked : Option String) : IsTried tables markup asked text log := by
  rcases isChain_or_unknown asked with ⟨rs, hchain⟩ | ⟨name, rfl, hname⟩
  · refine .inr ⟨rs, hchain, fun readers htables => ⟨?_, ignoresLater h hfilled hchain htables,
      reportsWarnings readers markup asked⟩⟩
    rw [read_eq_readWith h hfilled hchain htables]
    exact follows_readWith readers text log rs
  · exact .inl ⟨name, rfl, hname, refuses_unknownReader h hfilled hname⟩

/-- What is no markup is refused, then blank text, then a reader that there is not, and for none of
this is a reader tried. Any other text is given to the readers of the chain in turn, and the report
of an audit has the warnings that this leads to. Bytes hold a text unless the label they declare is
refused; then reading ends, before any reader is tried, in an error that is no failure to parse. -/
theorem read_follows_chain (tables : Charset.Tables) (markup : Source) (asked : Option String) :
    (∃ kind, markup = .other kind ∧ Refuses tables markup asked (.notMarkup kind) []) ∨
    (∃ bs e, markup = .bytes bs ∧ Charset.IsRefused (Charset.detect bs) bs ∧
      EndsUntried tables markup asked (.undecodable e) []) ∨
    ∃ text log, markup.Holds tables text log ∧
      ((∀ c ∈ text.toList, Text.isBlank c) → Refuses tables markup asked .blank log) ∧
      ((¬ ∀ c ∈ text.toList, Text.isBlank c) → IsTried tables markup asked text log) := by
  cases markup with
  | other kind => exact .inl ⟨kind, rfl, ⟨_, rfl, rfl⟩, fun readers _ => rfl⟩
  | text text =>
    have h : (Source.text text).Holds tables text [] := .text text
    exact .inr (.inr ⟨text, [], h, refuses_blank h, fun hfilled => isTried h hfilled asked⟩)
  | bytes bs =>
    rcases hdecode : Charset.decode tables bs with e | d
    · have hrefused := (Charset.decodeAs_eq_error_iff tables _ bs).mp ⟨e, hdecode⟩
      refine .inr (.inl ⟨bs, e, rfl, hrefused, ?_⟩)
      rintro readers rfl
      simp only [read, hdecode]
    · have h := Source.Holds.bytes hdecode
      exact .inr (.inr ⟨_, _, h, refuses_blank h, fun hfilled => isTried h hfilled asked⟩)

/-- Two of the readers read every text, but not this page. -/
theorem read_idna :
    let readers : Readers :=
      ⟨fun r _ => if r = .browser then .error "boom" else .ok [], .bare⟩
    let result := (read readers (.bytes "<meta charset=idna><p>Hi".toUTF8.toList)).result
    (∀ d, result ≠ .ok d) ∧ ∀ e, result = .error e → e.failure? = none := by
  intro readers result
  have hlabel : Charset.detect "<meta charset=idna><p>Hi".toUTF8.toList = "idna" := by
    decide +kernel
  have hrefused : Charset.IsRefused "idna" "<meta charset=idna><p>Hi".toUTF8.toList :=
    .inr (.inr (.inl (by decide +kernel)))
  obtain ⟨e, he⟩ := (Charset.decodeAs_eq_error_iff readers.tables "idna" _).mpr hrefused
  have hresult : result = .error (.undecodable e) := by
    simp only [result, read, Charset.decode, hlabel, he]
  rw [hresult]
  constructor
  · intro d hd
    cases hd
  · intro e' he'
    cases he'
    rfl

end Document

end PageAudit
