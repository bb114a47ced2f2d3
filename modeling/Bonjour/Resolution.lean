import Bonjour.Querier

/-!
# Service discovery, end to end

A querier writes a query, the responder reads it and writes the reply, and the querier
reads the reply back. No querier is among the sources, so the query it writes is modelled
from §3: a header with the query flags and the number of questions, then every question's
name, uncompressed, and footer.
-/

namespace Bonjour

open QuestionParser

/-- A question as a querier writes it: the name, uncompressed, then the footer. -/
def questionBytes (question : List Label × DnsQuestionFooter) : Bytes :=
  encodeName question.1 ++ question.2.toBytes

/-- A query as a querier writes it: a header with its id, the query flags, the number of
    questions and no records, then the questions. -/
def queryBytes (queryId : UInt16) (questions : List (List Label × DnsQuestionFooter)) : Bytes :=
  DnsRecordHeader.toBytes ⟨queryId, DnsRecordHeader.flagsQuery, UInt16.ofNat questions.length, 0, 0, 0⟩ ++
    (questions.map questionBytes).flatten

/-- The question the parser reads for a question sent. -/
def sentQuestion (question : List Label × DnsQuestionFooter) : Question := ⟨question.1, some question.2⟩

/-- A question the responder reads back as sent and matches label by label: labels of 1 to
    63 bytes with no `'.'`, a name of at most 255 bytes, and a footer `IsFooterValid`
    accepts. -/
structure Sendable (question : List Label × DnsQuestionFooter) : Prop where
  labels : ∀ l ∈ question.1, l.Wellformed ∧ dot ∉ l
  size : streamedSize question.1 ≤ 255
  footer : isFooterValid question.2 = true

-- ---------------------------------------------------------------------------
-- The question section, read back
-- ---------------------------------------------------------------------------

theorem questionAt_questionBytes {question : List Label × DnsQuestionFooter} (hq : Sendable question)
    (pre post : Bytes) :
    questionAt decodeName (pre ++ questionBytes question ++ post) pre.length =
      some (sentQuestion question, (pre ++ questionBytes question).length) := by
  have hsplit : pre ++ questionBytes question ++ post =
      pre ++ encodeName question.1 ++ (question.2.toBytes ++ post) := by
    simp [questionBytes]
  have hnext : (pre ++ encodeName question.1).length = pre.length + streamedSize question.1 := by
    simp [encodeName_length]
  have hfooter : footerAt (pre ++ (encodeName question.1 ++ (question.2.toBytes ++ post)))
      (pre.length + streamedSize question.1) = some question.2 := by
    rw [footerAt, if_pos (by simp [encodeName_length]; omega), ← List.append_assoc, ← hnext, List.drop_left,
      DnsQuestionFooter.ofBytes_toBytes]
  rw [questionAt, hsplit, decodeName_encodeName _ (fun l hl => (hq.labels l hl).1) hq.size]
  simp [hfooter, sentQuestion, questionBytes, encodeName_length, Nat.add_assoc]

/-- The questions a querier sends are read back as sent, wherever they sit. -/
theorem validQuestionsAt_questionBytes {questions : List (List Label × DnsQuestionFooter)}
    (hq : ∀ q ∈ questions, Sendable q) (pre post : Bytes) :
    validQuestionsAt decodeName (pre ++ (questions.map questionBytes).flatten ++ post) questions.length
      pre.length = some (questions.map sentQuestion) := by
  induction questions generalizing pre with
  | nil => simp [validQuestionsAt, questionsAt]
  | cons q rest ih =>
    have hrest := ih (fun q' h' => hq q' (List.mem_cons_of_mem _ h')) (pre ++ questionBytes q)
    have hat := questionAt_questionBytes (hq q (List.mem_cons_self _ _)) pre
      ((rest.map questionBytes).flatten ++ post)
    simp only [List.append_assoc] at hrest hat
    simp only [List.map_cons, List.flatten_cons, List.length_cons, validQuestionsAt_succ, List.append_assoc,
      hat, hrest, Option.map_some']
    rw [if_pos (by simpa [sentQuestion, Question.footerOk] using (hq q (List.mem_cons_self _ _)).footer)]

theorem headerAt_queryBytes (queryId : UInt16) (questions : List (List Label × DnsQuestionFooter)) :
    headerAt (queryBytes queryId questions) =
      some ⟨queryId, DnsRecordHeader.flagsQuery, UInt16.ofNat questions.length, 0, 0, 0⟩ := by
  simp [headerAt, queryBytes, DnsRecordHeader.ofBytes_toBytes]

theorem isValidHeader_query (queryId questionsCount : UInt16) :
    isValidHeader ⟨queryId, DnsRecordHeader.flagsQuery, questionsCount, 0, 0, 0⟩ = true := by
  simp only [isValidHeader]; decide

theorem validQuestionsAt_queryBytes (queryId : UInt16) {questions : List (List Label × DnsQuestionFooter)}
    (hq : ∀ q ∈ questions, Sendable q) (hlen : questions.length < 65536) :
    validQuestionsAt decodeName (queryBytes queryId questions) (UInt16.ofNat questions.length).toNat 12 =
      some (questions.map sentQuestion) := by
  rw [UInt16.toNat_ofNat', Nat.mod_eq_of_lt hlen]
  simpa [queryBytes] using validQuestionsAt_questionBytes hq
    (DnsRecordHeader.toBytes ⟨queryId, DnsRecordHeader.flagsQuery, UInt16.ofNat questions.length, 0, 0, 0⟩) []

/-- Round trip of the question section: the responder reads a query of fewer than 65536
    questions a querier can send as its id and its questions, as sent, and plans its answer
    for exactly those. -/
theorem expected_queryBytes (server : BonjourServer) (queryId : UInt16)
    {questions : List (List Label × DnsQuestionFooter)} (hq : ∀ q ∈ questions, Sendable q)
    (hlen : questions.length < 65536) :
    expected server decodeName (queryBytes queryId questions) =
      some (queryId, plan server (questions.map sentQuestion)) :=
  expected_of_valid (headerAt_queryBytes queryId questions) (isValidHeader_query _ _)
    (validQuestionsAt_queryBytes queryId hq hlen)

theorem expected_queryBytes_ptr :
    Sendable ([[115], [116], localLabel], ⟨12, 1⟩) ∧
    expected bareIdentity decodeName (queryBytes 7 [([[115], [116], localLabel], ⟨12, 1⟩)]) =
      some (7, plan bareIdentity [⟨[[115], [116], localLabel], some ⟨12, 1⟩⟩]) := by
  have hq : Sendable ([[115], [116], localLabel], ⟨12, 1⟩) :=
    ⟨by simp only [Label.Wellformed]; decide, by decide, by decide⟩
  exact ⟨hq, expected_queryBytes _ 7 (by simpa using hq) (by decide)⟩

-- ---------------------------------------------------------------------------
-- Resolution
-- ---------------------------------------------------------------------------

/-- The answer section to the questions a querier sends is the lookup of each in turn. -/
theorem answerRecords_sentQuestion (server : BonjourServer) {questions : List (List Label × DnsQuestionFooter)}
    (hq : ∀ q ∈ questions, Sendable q) :
    answerRecords server (questions.map sentQuestion) = questions.flatMap fun q => Answer.lookup server q.1 q.2 := by
  rw [answerRecords_eq_flatMap_lookup server, List.flatMap_map]
  · rfl
  · simp only [List.mem_map]
    rintro _ ⟨q, hmem, rfl⟩
    exact ⟨by simpa [sentQuestion, Question.footerOk] using (hq q hmem).footer,
      fun l hl => ⟨((hq q hmem).labels l hl).1.1, ((hq q hmem).labels l hl).2⟩⟩

/-- The reply to a query of at most 16383 questions a querier can send, read back: a response
    to the query's id whose answer section is the lookup of each question in turn, as the
    header counts it, followed by the additional records. -/
theorem readMessage_queryBytes {server : BonjourServer} (hs : Answer.Readable server) (queryId : UInt16)
    {questions : List (List Label × DnsQuestionFooter)} (hq : ∀ q ∈ questions, Sendable q)
    (hlen : questions.length ≤ 16383) :
    ∃ reply h, response server (queryBytes queryId questions) = some reply ∧
      readMessage reply = some (h, questions.flatMap (fun q => Answer.lookup server q.1 q.2) ++
        additionalRecords server (questions.map sentQuestion)) ∧
      h.id = queryId ∧ h.flags = DnsRecordHeader.flagsResponse ∧
      h.answersCount.toNat = (questions.flatMap fun q => Answer.lookup server q.1 q.2).length := by
  obtain ⟨reply, h, hr, hread, hid, hflags, -, -, hcount, -⟩ := readMessage_reply hs
    (expected_of_valid (headerAt_queryBytes queryId questions) (isValidHeader_query _ _)
      (validQuestionsAt_queryBytes queryId hq (by omega))) (by simpa using hlen)
  rw [answerRecords_sentQuestion server hq] at hread hcount
  exact ⟨reply, h, hr, hread, hid, hflags, hcount⟩

/-- Service discovery end to end. Take a readable identity and a query of at most 16383
    questions a querier can send. The dry run asks for a send stream exactly when one
    question finds a published record; and the reply, read back, is a response to the
    query's id whose answer section holds, question by question, the published records of
    the question's name, type and class, followed by the additional records the questions
    bring. -/
theorem queryBytes_resolves {server : BonjourServer} (hs : Answer.Readable server) (queryId : UInt16)
    {questions : List (List Label × DnsQuestionFooter)} (hq : ∀ q ∈ questions, Sendable q)
    (hlen : questions.length ≤ 16383) :
    ∃ p, dryRun server decodeName ⟨queryBytes queryId questions, 0⟩ = some p ∧
      (hasAnswer p = true ↔ ∃ q ∈ questions, Answer.lookup server q.1 q.2 ≠ []) ∧
      ∃ reply h, response server (queryBytes queryId questions) = some reply ∧
        readMessage reply = some (h, questions.flatMap (fun q => Answer.lookup server q.1 q.2) ++
          additionalRecords server (questions.map sentQuestion)) ∧
        h.id = queryId ∧ h.flags = DnsRecordHeader.flagsResponse ∧
        h.answersCount.toNat = (questions.flatMap fun q => Answer.lookup server q.1 q.2).length := by
  have he : expected server decodeName (queryBytes queryId questions) =
      some (queryId, plan server (questions.map sentQuestion)) :=
    expected_of_valid (headerAt_queryBytes queryId questions) (isValidHeader_query _ _)
      (validQuestionsAt_queryBytes queryId hq (by omega))
  obtain ⟨p, hp, -, -⟩ := dryRun_spec server decodeName (queryBytes queryId questions)
  refine ⟨p, hp, ?_, readMessage_queryBytes hs queryId hq hlen⟩
  rw [hasAnswer_dryRun_of_expected server decodeName he (by simp; omega) hp, answerCount_plan,
    ← Answer.length_filterMap_resourceRecord, ← answerRecords, answerRecords_sentQuestion server hq, Ne,
    List.length_eq_zero, List.flatMap_eq_nil_iff]
  push_neg
  rfl

-- ---------------------------------------------------------------------------
-- Browsing
-- ---------------------------------------------------------------------------

/-- The PTR question for the service name asks for the PTR record, and brings the TXT, SRV
    and address records, as long as no label of the service name is empty or holds a `'.'`. -/
theorem ptrQuestion_ops {server : BonjourServer}
    (hwf : ∀ l ∈ Answer.serviceNameParts server, l ≠ [] ∧ dot ∉ l) :
    (ptrQuestion server).answerOps server = [.addPtrAnswer] ∧
      (ptrQuestion server).additionalOps server =
        [.addTxtAdditional, .addSrvAdditional, .addAAdditional, .addAaaaAdditional] := by
  have hme : isQueryForMe server ptrFooter (joinLabels (Answer.serviceNameParts server)) = true := by
    rw [isQueryForMe_of_type server (t := .dnsTypePtr) rfl, hostNameIs, matchParts_iff, dnsParts_joinLabels _ hwf]
    rfl
  simp only [Question.answerOps, Question.additionalOps, ptrQuestion, hme, if_true]
  exact ⟨rfl, rfl⟩

/-- Browsing for the service. The PTR query for a readable identity's service name, none
    of whose labels holds a `'.'`, gets a reply that a querier reads back as a response to
    the query's id with one answer, the PTR record naming the full instance name, and as
    additional records the TXT record, the SRV record with the port and the host name, and
    the host's address records: all a client needs to connect, in one reply. -/
theorem browse_resolves {server : BonjourServer} (hs : Answer.Readable server)
    (hdot : ∀ l ∈ Answer.serviceNameParts server, dot ∉ l) (queryId : UInt16) :
    ∃ reply h, response server (queryBytes queryId [(Answer.serviceNameParts server, ptrFooter)]) = some reply ∧
      readMessage reply = some (h,
        ⟨Answer.serviceNameParts server, dnsClassIn, 60, .ptr (Answer.fullName server)⟩ ::
        ⟨Answer.fullName server, dnsClassIn, 60, .txt server.text⟩ ::
        ⟨Answer.fullName server, dnsClassIn, 60, .srv 0 0 server.port (Answer.shortName server)⟩ ::
        ((server.ipv4Address.map fun a => ⟨Answer.shortName server, dnsClassIn, 60, .a a⟩).toList ++
          (server.ipv6Address.map fun a => ⟨Answer.shortName server, dnsClassIn, 60, .aaaa a⟩).toList)) ∧
      h.id = queryId ∧ h.answersCount.toNat = 1 := by
  obtain ⟨hwf, hsize⟩ := hs.decodable (Answer.serviceNameParts server) (by simp)
  have hq : ∀ q ∈ [(Answer.serviceNameParts server, ptrFooter)], Sendable q := by
    simp only [List.mem_singleton, forall_eq]
    exact ⟨fun l hl => ⟨hwf l hl, hdot l hl⟩, hsize, rfl⟩
  have he : expected server decodeName (queryBytes queryId [(Answer.serviceNameParts server, ptrFooter)]) =
      some (queryId, plan server [ptrQuestion server]) :=
    expected_of_valid (headerAt_queryBytes _ _) (isValidHeader_query _ _)
      (validQuestionsAt_queryBytes queryId hq (by simp))
  obtain ⟨hans, hadd⟩ := ptrQuestion_ops fun l hl => ⟨(hwf l hl).1, hdot l hl⟩
  obtain ⟨reply, h, hr, hread, hid, -, -, -, hcount, -⟩ := readMessage_reply hs he (by simp)
  refine ⟨reply, h, hr, ?_, hid, ?_⟩
  · rw [hread]
    cases h4 : server.ipv4Address <;> cases h6 : server.ipv6Address <;>
      simp [answerRecords, additionalRecords, hans, hadd, Answer.resourceRecord, Answer.typeRecord,
        Answer.recordData, Answer.ownerName, Answer.Op.recordType, h4, h6]
  · rw [hcount]
    simp [answerRecords, hans, Answer.resourceRecord, Answer.typeRecord, Answer.recordData, Answer.Op.recordType]

/-- Browsing for `s.t.local`, served by the instance `i` on port 80 at `10.0.0.1`. -/
theorem browse_resolves_s_t_local :
    Answer.Readable hostIdentity ∧
    (∀ l ∈ Answer.serviceNameParts hostIdentity, dot ∉ l) ∧
    ∃ reply h, response hostIdentity
        (queryBytes 7 [([[115], [116], localLabel], ptrFooter)]) = some reply ∧
      readMessage reply = some (h,
        ⟨[[115], [116], localLabel], dnsClassIn, 60, .ptr [[105], [115], [116], localLabel]⟩ ::
        ⟨[[105], [115], [116], localLabel], dnsClassIn, 60, .txt []⟩ ::
        ⟨[[105], [115], [116], localLabel], dnsClassIn, 60, .srv 0 0 80 [[105], localLabel]⟩ ::
        (([⟨[[105], localLabel], dnsClassIn, 60, .a ⟨[10, 0, 0, 1], rfl⟩⟩] : List ResourceRecord) ++ [])) ∧
      h.id = 7 ∧ h.answersCount.toNat = 1 := by
  have hdot : ∀ l ∈ Answer.serviceNameParts hostIdentity,
      dot ∉ l := by decide
  exact ⟨readable_a_query, hdot, browse_resolves readable_a_query hdot 7⟩

/-- The one question of `aQuery`: the A record of `i.local`, in class IN. -/
def aQuestions : List (List Label × DnsQuestionFooter) := [([[105], localLabel], ⟨1, 1⟩)]

/-- The A question for `i.local` is one a querier can send. -/
theorem sendable_a_query : ∀ q ∈ aQuestions, Sendable q := by
  simp only [aQuestions, List.mem_singleton, forall_eq]
  exact ⟨by simp only [Label.Wellformed]; decide, by decide, by decide⟩

/-- A query for the instance's address, `i.local` of type A, to the identity `i.s.t.local`
    at `10.0.0.1`. -/
theorem queryBytes_resolves_a_query :
    Answer.Readable hostIdentity ∧
    (∀ q ∈ aQuestions, Sendable q) ∧
    aQuestions.length ≤ 16383 ∧
    ∃ p, dryRun hostIdentity decodeName ⟨queryBytes 7 aQuestions, 0⟩ = some p ∧
      (hasAnswer p = true ↔ ∃ q ∈ aQuestions,
        Answer.lookup hostIdentity q.1 q.2 ≠ []) ∧
      ∃ reply h, response hostIdentity (queryBytes 7 aQuestions) = some reply ∧
        readMessage reply = some (h, aQuestions.flatMap
            (fun q => Answer.lookup hostIdentity q.1 q.2) ++
          additionalRecords hostIdentity (aQuestions.map sentQuestion)) ∧
        h.id = 7 ∧ h.flags = DnsRecordHeader.flagsResponse ∧
        h.answersCount.toNat = (aQuestions.flatMap fun q =>
          Answer.lookup hostIdentity q.1 q.2).length := by
  exact ⟨readable_a_query, sendable_a_query, by decide,
    queryBytes_resolves readable_a_query 7 sendable_a_query (by decide)⟩

end Bonjour
