import Bonjour.Planner

/-!
# The two passes

The constructors of `BonjourServer::QuestionParser` (lines 201–227). The dry run runs
`CreateAnswer` into the parser's own counting writer; the real pass runs it into the
granted buffer and finishes the answer. Both rewind the reader to the start of the
datagram. `HasAnswer` and `RequestSendStream` read the dry run.
-/

namespace Bonjour

open StreamWriter
open Answer (Op)

namespace QuestionParser

section Passes

variable (server : BonjourServer) (decode : Bytes → Nat → Option (List Label × Nat))

/-- `QuestionParser(server, reader)`: `CreateAnswer(countingWriter)`, then
    `reader.Rewind(0)`. `none` is an abort. -/
def dryRun (reader : Reader) : Option (QuestionParser (Answer CountingStreamWriter)) :=
  (createAnswer server decode (Answer.perform server) (fun id => Answer.new id ⟨0⟩) (init reader)).map
    fun p => { p with reader := p.reader.rewind 0 }

/-- `QuestionParser(server, reader, writer)`: `CreateAnswer(writer)`, `answer->Finish()`
    when there is an answer, then `reader.Rewind(0)`. -/
def realPass (reader : Reader) (writer : SendBuffer) : Option (QuestionParser (Answer SendBuffer)) :=
  (createAnswer server decode (Answer.perform server) (fun id => Answer.new id writer) (init reader)).map
    fun p => { p with answer := p.answer.map Answer.finish, reader := p.reader.rewind 0 }

end Passes

/-- `HasAnswer`: an answer with a record in the answer section. -/
def hasAnswer {W : Type} (p : QuestionParser (Answer W)) : Bool :=
  match p.answer with
  | some a => a.answersCount != 0
  | none => false

/-- `countingWriter.Processed()` where the dry run kept its answer, the only case in
    which `RequestSendStream` reads it. -/
def processed (p : QuestionParser (Answer CountingStreamWriter)) : Nat :=
  match p.answer with
  | some a => a.writer.processed
  | none => 0

/-- `RequestSendStream`: the size of the buffer asked for, and where it goes. -/
def requestSendStream (p : QuestionParser (Answer CountingStreamWriter)) : Nat × UdpSocket :=
  (processed p, makeUdpSocket mdnsMulticastAddress mdnsPort)

-- ---------------------------------------------------------------------------
-- What each pass leaves
-- ---------------------------------------------------------------------------

section Spec

variable (server : BonjourServer) (decode : Bytes → Nat → Option (List Label × Nat))

theorem runOps_perform {W : Type} [StreamWriter W] (ops : List Op) (a : Answer W) :
    runOps (Answer.perform server) ops a =
      { a with writer := insert a.writer (Answer.records server ops),
               answersCount := a.answersCount + UInt16.ofNat (Answer.answerCount server ops),
               additionalRecordsCount :=
                 a.additionalRecordsCount + UInt16.ofNat (Answer.additionalCount server ops) } :=
  Answer.foldl_perform server ops a

theorem realPass_isSome (reader : Reader) (writer : SendBuffer) :
    (realPass server decode reader writer).isSome := by
  simp [realPass, createAnswer_init_isSome]

theorem dryRun_spec (d : Bytes) :
    ∃ p, dryRun server decode ⟨d, 0⟩ = some p ∧ p.reader = ⟨d, 0⟩ ∧
      p.answer = (expected server decode d).map fun e =>
        runOps (Answer.perform server) e.2 (Answer.new e.1 ⟨0⟩) := by
  obtain ⟨p, hp, hd, ha⟩ := createAnswer_answer server decode (Answer.perform server)
    (fun id => Answer.new id (⟨0⟩ : CountingStreamWriter)) d
  exact ⟨{ p with reader := p.reader.rewind 0 }, by rw [dryRun, hp]; rfl,
    by rw [Reader.rewind_eq, hd], ha⟩

theorem realPass_spec (d : Bytes) (writer : SendBuffer) :
    ∃ p, realPass server decode ⟨d, 0⟩ writer = some p ∧ p.reader = ⟨d, 0⟩ ∧
      p.answer = (expected server decode d).map fun e =>
        (runOps (Answer.perform server) e.2 (Answer.new e.1 writer)).finish := by
  obtain ⟨p, hp, hd, ha⟩ := createAnswer_answer server decode (Answer.perform server)
    (fun id => Answer.new id writer) d
  exact ⟨{ p with answer := p.answer.map Answer.finish, reader := p.reader.rewind 0 },
    by rw [realPass, hp]; rfl, by rw [Reader.rewind_eq, hd], by simp [ha, Option.map_map]; rfl⟩

/-- The dry run counts the provisional header and the records. -/
theorem processed_runOps_new (queryId : UInt16) (ops : List Op) :
    (runOps (Answer.perform server) ops (Answer.new queryId (⟨0⟩ : CountingStreamWriter))).writer.processed =
      12 + (Answer.records server ops).length := by
  simp [runOps_perform, Answer.new, Answer.write]

/-- A query asks for a record in the answer section exactly when one of its questions
    does. -/
theorem answerRecords_ne_nil_iff (qs : List Question) :
    ((qs.map (·.answerOps server)).flatten.filterMap (Answer.record server)).length ≠ 0 ↔
      ∃ q ∈ qs, ∃ op ∈ q.answerOps server, (Answer.record server op).isSome := by
  simp only [Ne, List.length_eq_zero, List.filterMap_eq_nil_iff, List.mem_flatten, List.mem_map,
    Option.isSome_iff_ne_none]
  push_neg
  constructor
  · rintro ⟨op, ⟨_, ⟨q, hq, rfl⟩, hop⟩, hr⟩
    exact ⟨q, hq, op, hop, hr⟩
  · rintro ⟨q, hq, op, hop, hr⟩
    exact ⟨op, ⟨_, ⟨q, hq, rfl⟩, hop⟩, hr⟩

/-- The dry run over a datagram whose query `CreateAnswer` plans for keeps an answer with a
    record in its answer section exactly when the plan writes one there: the answer counter
    is at most the number of questions, so it does not wrap below 65536 of them. -/
theorem hasAnswer_dryRun_of_expected {d : Bytes} {queryId : UInt16} {qs : List Question}
    (he : expected server decode d = some (queryId, plan server qs)) (hlen : qs.length < 65536)
    {p : QuestionParser (Answer CountingStreamWriter)} (hp : dryRun server decode ⟨d, 0⟩ = some p) :
    hasAnswer p = true ↔ Answer.answerCount server (plan server qs) ≠ 0 := by
  obtain ⟨p', hp', -, ha⟩ := dryRun_spec server decode d
  obtain rfl : p = p' := Option.some.inj (hp.symm.trans hp')
  have hn : Answer.answerCount server (plan server qs) < 65536 := by
    rw [answerCount_plan]
    calc _ ≤ _ := List.length_filterMap_le _ _
      _ ≤ qs.length := answerOps_flatten_length_le server qs
      _ < 65536 := hlen
  simp only [hasAnswer, ha, he, Option.map_some', runOps_perform, Answer.new, Answer.write, bne_iff_ne,
    ne_eq, zero_add]
  refine not_congr ⟨fun h0 => ?_, fun h0 => by rw [h0]; rfl⟩
  simpa [Nat.mod_eq_of_lt hn] using congrArg UInt16.toNat h0

/-- `HasAnswer`, read off the datagram through the parser's own checks: the dry run keeps
    an answer with a record in its answer section exactly when the header passes
    `IsValidQuestion`, the `qdcount` questions can all be read and pass `IsFooterValid`, and
    the plan of one of them writes a record. The answer counter does not wrap: it is at
    most `qdcount`. -/
theorem hasAnswer_dryRun_iff_plan (d : Bytes) :
    ∃ p, dryRun server decode ⟨d, 0⟩ = some p ∧
      (hasAnswer p = true ↔ ∃ h qs, headerAt d = some h ∧ isValidHeader h = true ∧
        validQuestionsAt decode d h.questionsCount.toNat 12 = some qs ∧
        ∃ q ∈ qs, ∃ op ∈ q.answerOps server, (Answer.record server op).isSome) := by
  obtain ⟨p, hp, -, ha⟩ := dryRun_spec server decode d
  refine ⟨p, hp, ?_⟩
  rcases hh : headerAt d with _ | h
  · simp [hasAnswer, ha, expected, hh]
  rcases hv : isValidHeader h with _ | _
  · simp [hasAnswer, ha, expected, hh, hv]
  rcases hqs : validQuestionsAt decode d h.questionsCount.toNat 12 with _ | qs
  · simp [hasAnswer, ha, expected, hh, hv, hqs]
  have hlen : qs.length < 65536 := by rw [validQuestionsAt_length decode hqs]; exact UInt16.toNat_lt' _
  rw [hasAnswer_dryRun_of_expected server decode (expected_of_valid hh hv hqs) hlen hp, answerCount_plan,
    answerRecords_ne_nil_iff]
  constructor
  · exact fun hq => ⟨h, qs, rfl, hv, hqs, hq⟩
  · rintro ⟨h', qs', hh', -, hqs', hq⟩
    obtain rfl : h = h' := Option.some.inj hh'
    obtain rfl : qs = qs' := Option.some.inj (hqs.symm.trans hqs')
    exact hq

end Spec

-- ---------------------------------------------------------------------------
-- Pass equivalence
-- ---------------------------------------------------------------------------

section Agree

variable (server : BonjourServer) (decode : Bytes → Nat → Option (List Label × Nat))

/-- The two passes over one datagram agree. The dry run leaves the reader at the start
    of the datagram; the passes keep or drop the answer together and count the same
    records; and in a buffer with room for what the dry run counted, the real pass
    writes exactly that many bytes, `Finish` overwriting the twelve header bytes and
    nothing else. -/
theorem dryRun_realPass_agree (d : Bytes) (writer : SendBuffer) :
    ∃ dry real, dryRun server decode ⟨d, 0⟩ = some dry ∧
      realPass server decode ⟨d, 0⟩ writer = some real ∧
      dry.reader = ⟨d, 0⟩ ∧ real.reader = ⟨d, 0⟩ ∧
      (dry.answer = none ∧ real.answer = none ∨
        ∃ (a : Answer CountingStreamWriter) (c : Answer SendBuffer), dry.answer = some a ∧
          real.answer = some c.finish ∧
          a.answersCount = c.answersCount ∧ a.additionalRecordsCount = c.additionalRecordsCount ∧
          (writer.written.length + processed dry ≤ writer.size →
            c.writer.written.length = writer.written.length + processed dry ∧
            c.finish.writer.written.length = c.writer.written.length ∧
            c.finish.writer.written = c.writer.written.take writer.written.length ++
              DnsRecordHeader.toBytes ⟨c.queryId, DnsRecordHeader.flagsResponse, 0, c.answersCount,
                c.nameServersCount, c.additionalRecordsCount⟩ ++
              c.writer.written.drop (writer.written.length + 12))) := by
  obtain ⟨dry, hdry, hdr, hda⟩ := dryRun_spec server decode d
  obtain ⟨real, hreal, hrr, hra⟩ := realPass_spec server decode d writer
  refine ⟨dry, real, hdry, hreal, hdr, hrr, ?_⟩
  cases he : expected server decode d with
  | none => exact .inl ⟨by simp [hda, he], by simp [hra, he]⟩
  | some e =>
    obtain ⟨queryId, ops⟩ := e
    refine .inr ⟨runOps (Answer.perform server) ops (Answer.new queryId ⟨0⟩),
      runOps (Answer.perform server) ops (Answer.new queryId writer), by simp [hda, he],
      by simp [hra, he], by simp [runOps_perform, Answer.new, Answer.write],
      by simp [runOps_perform, Answer.new, Answer.write], fun hroom => ?_⟩
    have hp : processed dry = 12 + (Answer.records server ops).length := by
      simp [processed, hda, he, processed_runOps_new]
    have hw := Answer.written_foldl_new server queryId ops writer (by omega)
    have hm : (runOps (Answer.perform server) ops (Answer.new queryId writer)).startMarker =
        writer.written.length := by
      simp [runOps_perform, Answer.new, Answer.write, constructSaveMarker]
    have hlen : (runOps (Answer.perform server) ops (Answer.new queryId writer)).writer.written.length =
        writer.written.length + processed dry := by
      rw [runOps, hw, hp]; simp
    exact ⟨hlen, overwriteFrom_length _ _ _, by rw [Answer.finish_written _ (by omega), hm]⟩

end Agree

end QuestionParser

-- ---------------------------------------------------------------------------
-- The size of a reply
-- ---------------------------------------------------------------------------

namespace Answer

/-- The most bytes a record of a type takes when each name and the text take at most
    255 bytes: the owner name, the ten payload bytes and the data. -/
def maxRecordLength : DnsType → Nat
  | .dnsTypeA => 255 + 10 + 4
  | .dnsTypeAAAA => 255 + 10 + 16
  | .dnsTypePtr => 255 + 10 + 255
  | .dnsTypeSrv => 255 + 10 + 6 + 255
  | .dnsTypeTxt => 255 + 10 + 255

variable (server : BonjourServer)

/-- The names and the text of an identity take at most 255 bytes each. -/
structure ShortNames : Prop where
  short : (encodeName (shortName server)).length ≤ 255
  full : (encodeName (fullName server)).length ≤ 255
  service : (encodeName (serviceNameParts server)).length ≤ 255
  text : (encodeParts server.text).length ≤ 255

theorem records_append (xs ys : List Op) : records server (xs ++ ys) = records server xs ++ records server ys := by
  simp [records]

variable {server}

theorem ShortNames.record_length_le (h : ShortNames server) (op : Op) {r : Bytes}
    (hr : record server op = some r) : r.length ≤ maxRecordLength op.recordType := by
  have := h.short; have := h.full; have := h.service; have := h.text
  simp only [record, Option.map_eq_some'] at hr
  obtain ⟨data, hd, rfl⟩ := hr
  generalize op.recordType = t at hd ⊢
  cases t with
  | dnsTypeA =>
    obtain ⟨a, -, rfl⟩ := Option.map_eq_some'.mp hd
    simp [ownerName, maxRecordLength, a.length_eq]; omega
  | dnsTypeAAAA =>
    obtain ⟨a, -, rfl⟩ := Option.map_eq_some'.mp hd
    simp [ownerName, maxRecordLength, a.length_eq]; omega
  | dnsTypePtr => cases hd; simp [ownerName, maxRecordLength]; omega
  | dnsTypeSrv => cases hd; simp [ownerName, maxRecordLength]; omega
  | dnsTypeTxt => cases hd; simp [ownerName, maxRecordLength]; omega

theorem ShortNames.records_length_le (h : ShortNames server) (ops : List Op) :
    (records server ops).length ≤ (ops.map (maxRecordLength ·.recordType)).sum := by
  induction ops with
  | nil => simp [records]
  | cons op ops ih =>
    rw [← List.singleton_append, records_append, List.length_append, List.map_append, List.sum_append]
    cases hr : record server op with
    | none => simp [records, hr] at ih ⊢; omega
    | some r => simp [records, hr] at ih ⊢; have := h.record_length_le op hr; omega

end Answer

namespace QuestionParser

variable (server : BonjourServer)

/-- The records one question brings take at most 2116 bytes: the most is a PTR
    question's answer and its four additional records. -/
theorem Question.maxRecordLength_le (q : Question) :
    ((q.answerOps server ++ q.additionalOps server).map (Answer.maxRecordLength ·.recordType)).sum ≤
      2116 := by
  rcases q with ⟨name, _ | f⟩
  · simp [Question.answerOps, Question.additionalOps]
  · simp only [Question.answerOps, Question.additionalOps]
    split
    · rcases DnsType.ofValue? f.type with _ | _ | _ | _ | _ | _ <;> decide
    · simp

theorem plan_maxRecordLength_le (qs : List Question) :
    ((plan server qs).map (Answer.maxRecordLength ·.recordType)).sum ≤ 2116 * qs.length := by
  induction qs with
  | nil => simp [plan]
  | cons q qs ih =>
    have hq := q.maxRecordLength_le server
    simp only [plan, List.map_cons, List.flatten_cons, List.map_append, List.sum_append] at ih hq ⊢
    simp only [List.length_cons]
    omega

variable (decode : Bytes → Nat → Option (List Label × Nat))

/-- With names and text of at most 255 bytes each, the size the dry run asks for is
    at most the 12 header bytes and 2116 bytes for each question the header announces. -/
theorem requestSendStream_le (h : Answer.ShortNames server) (d : Bytes) :
    ∃ p, dryRun server decode ⟨d, 0⟩ = some p ∧
      (requestSendStream p).1 ≤ 12 + 2116 * (DnsRecordHeader.ofBytes d).questionsCount.toNat := by
  obtain ⟨p, hp, -, ha⟩ := dryRun_spec server decode d
  refine ⟨p, hp, ?_⟩
  cases he : expected server decode d with
  | none => simp [requestSendStream, processed, ha, he]
  | some e =>
    obtain ⟨queryId, ops⟩ := e
    obtain ⟨qs, hqs, -, rfl⟩ := expected_eq_some he
    have hrec := h.records_length_le (plan server qs)
    have hplan := plan_maxRecordLength_le server qs
    rw [← validQuestionsAt_length decode hqs]
    simp only [requestSendStream, processed, ha, he, Option.map_some', processed_runOps_new]
    omega

/-- The A query for `i.local` to `i.s.t.local` at `10.0.0.1`, of one question. -/
theorem requestSendStream_le_a_query :
    Answer.ShortNames hostIdentity ∧
    ∃ p, dryRun hostIdentity decodeName ⟨aQuery, 0⟩ = some p ∧
      (requestSendStream p).1 ≤ 12 + 2116 * (DnsRecordHeader.ofBytes aQuery).questionsCount.toNat := by
  have h : Answer.ShortNames hostIdentity := ⟨by decide, by decide, by decide, by decide⟩
  exact ⟨h, requestSendStream_le hostIdentity decodeName h aQuery⟩

-- ---------------------------------------------------------------------------
-- Repeated questions
-- ---------------------------------------------------------------------------

/-- The footer of a PTR question of class IN. -/
def ptrFooter : DnsQuestionFooter := ⟨DnsType.dnsTypePtr.enumCast, dnsClassIn⟩

/-- A PTR question whose name is a compression pointer to offset 12. -/
def ptrQuestionByPointer : Bytes := [0xC0, 12] ++ ptrFooter.toBytes

/-- A query asking `k + 1` times for the PTR records of the service name: the name in
    full after the header, then `k` questions that point back to it. -/
def repeatedPtrQuery (server : BonjourServer) (k : Nat) : Bytes :=
  DnsRecordHeader.toBytes ⟨0, 0, UInt16.ofNat (k + 1), 0, 0, 0⟩ ++
    encodeName (Answer.serviceNameParts server) ++
    (ptrFooter.toBytes ++ (List.replicate k ptrQuestionByPointer).flatten)

/-- The question every entry of `repeatedPtrQuery` reads as. -/
def ptrQuestion (server : BonjourServer) : Question := ⟨Answer.serviceNameParts server, some ptrFooter⟩

@[simp] theorem ptrQuestion_footerOk (server : BonjourServer) : (ptrQuestion server).footerOk = true := rfl

section Repeated

variable {server : BonjourServer}
  (hwf : ∀ l ∈ Answer.serviceNameParts server, l.Wellformed ∧ dot ∉ l)
  (hsize : streamedSize (Answer.serviceNameParts server) ≤ 255)

private theorem getElem?_of_drop {d rest : Bytes} {pos : Nat} {b : UInt8} (h : d.drop pos = b :: rest) :
    d[pos]? = some b := by
  rw [← Nat.add_zero pos, ← List.getElem?_drop, h, List.getElem?_cons_zero]

private theorem footerAt_of_drop {d rest : Bytes} {pos : Nat} (h : d.drop pos = ptrFooter.toBytes ++ rest) :
    footerAt d pos = some ptrFooter := by
  have hlen : pos + 4 ≤ d.length := by
    have := congrArg List.length h; simp at this; omega
  simp [footerAt, hlen, h, DnsQuestionFooter.ofBytes_toBytes]

include hwf hsize in
/-- A question that points back to the service name after a 12-byte header reads as
    the service name with its footer. -/
theorem questionAt_ptrQuestionByPointer {pre post rest : Bytes} {pos : Nat} (hpre : pre.length = 12)
    (hd : (pre ++ encodeName (Answer.serviceNameParts server) ++ post).drop pos =
      ptrQuestionByPointer ++ rest) :
    questionAt decodeName (pre ++ encodeName (Answer.serviceNameParts server) ++ post) pos =
      some (ptrQuestion server, pos + 6) := by
  set d := pre ++ encodeName (Answer.serviceNameParts server) ++ post
  have h0 : d[pos]? = some 0xC0 := getElem?_of_drop hd
  have h1 : d[pos + 1]? = some 12 := getElem?_of_drop (by
    rw [← List.drop_drop, hd]; rfl)
  have hlen := length_lt_streamedSize (Answer.serviceNameParts server)
  have htarget := readLabels_encodeName _ (fun l hl => (hwf l hl).1) pre post (d.length + 1)
    (by simp [d, encodeName_length]; omega)
  rw [hpre] at htarget
  have hread : readLabels d (d.length + 1) pos = some ([], .pointer 12, pos + 2) := by
    simp only [readLabels, h0, h1]
    rfl
  have hfoot : footerAt d (pos + 2) = some ptrFooter :=
    footerAt_of_drop (by rw [← List.drop_drop, hd]; rfl)
  simp [questionAt, decodeName, hread, htarget, hsize, hfoot, ptrQuestion]

include hwf hsize in
theorem validQuestionsAt_replicate {pre post rest : Bytes} (hpre : pre.length = 12) (j : Nat) {pos : Nat}
    (hd : (pre ++ encodeName (Answer.serviceNameParts server) ++ post).drop pos =
      (List.replicate j ptrQuestionByPointer).flatten ++ rest) :
    validQuestionsAt decodeName (pre ++ encodeName (Answer.serviceNameParts server) ++ post) j pos =
      some (List.replicate j (ptrQuestion server)) := by
  induction j generalizing pos with
  | zero => rfl
  | succ j ih =>
    rw [List.replicate_succ, List.flatten_cons, List.append_assoc ptrQuestionByPointer] at hd
    have hrest := @ih (pos + 6) (by rw [← List.drop_drop, hd]; exact List.drop_left' rfl)
    rw [validQuestionsAt_succ, questionAt_ptrQuestionByPointer hwf hsize hpre hd]
    simp only [ptrQuestion_footerOk, if_true, hrest, Option.map_some', List.replicate_succ]

include hwf hsize in
/-- Every entry of `repeatedPtrQuery` reads as the PTR question for the service name. -/
theorem validQuestionsAt_repeatedPtrQuery (k : Nat) :
    validQuestionsAt decodeName (repeatedPtrQuery server k) (k + 1) 12 =
      some (List.replicate (k + 1) (ptrQuestion server)) := by
  set pre := DnsRecordHeader.toBytes ⟨0, 0, UInt16.ofNat (k + 1), 0, 0, 0⟩
  set post := ptrFooter.toBytes ++ (List.replicate k ptrQuestionByPointer).flatten
  have hpre : pre.length = 12 := DnsRecordHeader.toBytes_length _
  have hfirst := decodeName_encodeName _ (fun l hl => (hwf l hl).1) hsize pre post
  rw [hpre] at hfirst
  have hdrop : (pre ++ encodeName (Answer.serviceNameParts server) ++ post).drop
      (12 + streamedSize (Answer.serviceNameParts server)) = post :=
    List.drop_left' (by simp [hpre, encodeName_length])
  have hrest := @validQuestionsAt_replicate server hwf hsize pre post [] hpre k
    (12 + streamedSize (Answer.serviceNameParts server) + 4)
    (by rw [← List.drop_drop, hdrop, List.append_nil]; exact List.drop_left' rfl)
  show validQuestionsAt decodeName (pre ++ encodeName (Answer.serviceNameParts server) ++ post) _ _ = _
  rw [validQuestionsAt_succ, questionAt, hfirst]
  simp only [Option.map_some', footerAt_of_drop hdrop]
  simp only [hrest, Option.map_some', List.replicate_succ]
  exact if_pos rfl

theorem isQueryForMe_ptrFooter (hostname : Bytes) :
    isQueryForMe server ptrFooter hostname = myServiceName server hostname := rfl

include hwf in
theorem plan_replicate_ptrQuestion (n : Nat) :
    plan server (List.replicate n (ptrQuestion server)) =
      (List.replicate n [Op.addPtrAnswer]).flatten ++
        (List.replicate n [.addTxtAdditional, .addSrvAdditional, .addAAdditional, .addAaaaAdditional]).flatten := by
  have hme : myServiceName server (joinLabels (Answer.serviceNameParts server)) = true := by
    have hparts := dnsParts_joinLabels _ fun l hl => ⟨(hwf l hl).1.1, (hwf l hl).2⟩
    simp only [Answer.serviceNameParts] at hparts ⊢
    simp [myServiceName, hostNameIs, hparts]
  simp only [plan, List.map_replicate, Question.answerOps, Question.additionalOps, ptrQuestion,
    isQueryForMe_ptrFooter, hme, if_true]
  rfl

end Repeated

theorem Answer.records_replicate (server : BonjourServer) (n : Nat) (ops : List Op) :
    (Answer.records server (List.replicate n ops).flatten).length = n * (Answer.records server ops).length := by
  induction n with
  | zero => simp [Answer.records]
  | succ n ih => rw [List.replicate_succ, List.flatten_cons, Answer.records_append, List.length_append, ih,
      Nat.succ_mul, Nat.add_comm]

theorem Answer.answerCount_replicate (server : BonjourServer) (n : Nat) (ops : List Op) :
    Answer.answerCount server (List.replicate n ops).flatten = n * Answer.answerCount server ops := by
  induction n with
  | zero => simp [Answer.answerCount]
  | succ n ih =>
    rw [List.replicate_succ, List.flatten_cons, Answer.answerCount_append, ih, Nat.succ_mul, Nat.add_comm]


section Amplification

variable {server : BonjourServer}
  (hwf : ∀ l ∈ Answer.serviceNameParts server, l.Wellformed ∧ dot ∉ l)
  (hsize : streamedSize (Answer.serviceNameParts server) ≤ 255)

include hwf hsize in
theorem expected_repeatedPtrQuery (k : Nat) (hk : k + 1 < 65536) :
    expected server decodeName (repeatedPtrQuery server k) =
      some (0, plan server (List.replicate (k + 1) (ptrQuestion server))) := by
  have hheader : DnsRecordHeader.ofBytes (repeatedPtrQuery server k) =
      ⟨0, 0, UInt16.ofNat (k + 1), 0, 0, 0⟩ := by
    rw [repeatedPtrQuery, List.append_assoc, DnsRecordHeader.ofBytes_toBytes]
  have h12 : 12 ≤ (repeatedPtrQuery server k).length := by simp [repeatedPtrQuery]
  have hqd : (UInt16.ofNat (k + 1)).toNat = k + 1 := by simp; omega
  have hvalid : isValidHeader ⟨0, 0, UInt16.ofNat (k + 1), 0, 0, 0⟩ = true := by
    simp only [isValidHeader]
    decide
  simp [expected, headerAt, h12, hheader, hqd, hvalid, validQuestionsAt_repeatedPtrQuery hwf hsize]

include hwf hsize in
/-- A query that repeats a PTR question for the service name `k + 1` times, in six
    bytes a repetition, makes the dry run ask for the header and, for every
    repetition, the PTR answer and its four additional records. -/
theorem dryRun_repeatedPtrQuery (k : Nat) (hk : k + 1 < 65536) :
    ∃ p, dryRun server decodeName ⟨repeatedPtrQuery server k, 0⟩ = some p ∧ hasAnswer p = true ∧
      (requestSendStream p).1 = 12 + (k + 1) * (Answer.records server
        [.addPtrAnswer, .addTxtAdditional, .addSrvAdditional, .addAAdditional, .addAaaaAdditional]).length := by
  obtain ⟨p, hp, -, ha⟩ := dryRun_spec server decodeName (repeatedPtrQuery server k)
  rw [expected_repeatedPtrQuery hwf hsize k hk, plan_replicate_ptrQuestion hwf] at ha
  refine ⟨p, hp, ?_, ?_⟩
  · have hptr : Answer.answerCount server [Op.addPtrAnswer] = 1 := rfl
    have hadd : Answer.answerCount server
        [.addTxtAdditional, .addSrvAdditional, .addAAdditional, .addAaaaAdditional] = 0 := rfl
    have hcount : Answer.answerCount server ((List.replicate (k + 1) [Op.addPtrAnswer]).flatten ++
        (List.replicate (k + 1)
          [.addTxtAdditional, .addSrvAdditional, .addAAdditional, .addAaaaAdditional]).flatten) = k + 1 := by
      rw [Answer.answerCount_append, Answer.answerCount_replicate, Answer.answerCount_replicate, hptr, hadd]
      omega
    simp only [hasAnswer, ha, Option.map_some', runOps_perform, Answer.new, Answer.write, hcount,
      bne_iff_ne, ne_eq]
    intro h
    have := congrArg UInt16.toNat h
    simp at this
    omega
  · simp only [requestSendStream, processed, ha, Option.map_some', processed_runOps_new,
      Answer.records_append, List.length_append, Answer.records_replicate]
    rw [show [Op.addPtrAnswer, .addTxtAdditional, .addSrvAdditional, .addAAdditional, .addAaaaAdditional] =
      [Op.addPtrAnswer] ++ [.addTxtAdditional, .addSrvAdditional, .addAAdditional, .addAaaaAdditional] from rfl,
      Answer.records_append, List.length_append, Nat.mul_add]

end Amplification

theorem repeatedPtrQuery_length (server : BonjourServer) (k : Nat) :
    (repeatedPtrQuery server k).length = 12 + streamedSize (Answer.serviceNameParts server) + 4 + 6 * k := by
  have hrep : ∀ n, ((List.replicate n ptrQuestionByPointer).flatten).length = 6 * n := by
    intro n; induction n with
    | zero => rfl
    | succ n ih =>
      rw [List.replicate_succ, List.flatten_cons, List.length_append, ih,
        show ptrQuestionByPointer.length = 6 from rfl]
      omega
  simp only [repeatedPtrQuery, List.length_append, DnsRecordHeader.toBytes_length, encodeName_length,
    DnsQuestionFooter.toBytes_length, hrep]
  omega

/-- With one-letter names, no address and no text, a query of 690 PTR questions in
    4161 bytes makes the dry run ask for 65562 bytes, more than a UDP datagram holds. -/
theorem requestSendStream_exceeds_udp_payload :
    Answer.ShortNames bareIdentity ∧
    (repeatedPtrQuery bareIdentity 689).length ≤ 65507 ∧
    ∃ p, dryRun bareIdentity decodeName
        ⟨repeatedPtrQuery bareIdentity 689, 0⟩ = some p ∧
      hasAnswer p = true ∧ 65507 < (requestSendStream p).1 := by
  obtain ⟨p, hp, hhas, hreq⟩ := @dryRun_repeatedPtrQuery bareIdentity
    (by unfold Label.Wellformed; decide) (by decide) 689 (by decide)
  refine ⟨⟨by decide, by decide, by decide, by decide⟩, ?_, p, hp, hhas, ?_⟩
  · rw [repeatedPtrQuery_length]; decide
  · rw [hreq]; decide

end QuestionParser

end Bonjour