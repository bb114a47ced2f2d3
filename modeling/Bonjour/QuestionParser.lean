import Bonjour.Answer

/-!
# The question parser

`BonjourServer::QuestionParser` (lines 201–425): it reads the header of a query, then its
questions twice, once for answers and, after rewinding, once for additional records,
calling the `Add*` functions of its answer as it goes. It is generic in the answer it
drives (`emplace` makes one, `perform` calls an `Add*`), and takes the name decoder of the
absent `Dns.cpp` as a parameter. `stream` is a soft-fail input stream whose failure flag is
`failed`.
-/

namespace Bonjour

open Answer (Op)

/-- `BonjourServer::QuestionParser`, for an answer of type `A`. -/
structure QuestionParser (A : Type) where
  reader : Reader
  failed : Bool
  header : DnsRecordHeader
  footer : DnsQuestionFooter
  valid : Bool
  answer : Option A
  reconstructedHostname : Bytes

namespace QuestionParser

variable {A : Type}

/-- The members as the constructor leaves them, reading from `reader`. -/
def init (reader : Reader) : QuestionParser A :=
  ⟨reader, false, ⟨0, 0, 0, 0, 0, 0⟩, ⟨0, 0⟩, true, none, []⟩

-- ---------------------------------------------------------------------------
-- Reading
-- ---------------------------------------------------------------------------

/-- `stream >> header`. -/
def readHeader (p : QuestionParser A) : QuestionParser A :=
  match p.reader.peek 12 with
  | some bytes =>
    { p with header := DnsRecordHeader.ofBytes bytes, reader.offset := p.reader.offset + 12 }
  | none => { p with failed := true, reader.offset := p.reader.data.length }

theorem readHeader_init {d : Bytes} (h : 12 ≤ d.length) :
    (init ⟨d, 0⟩ : QuestionParser A).readHeader =
      ⟨⟨d, 12⟩, false, DnsRecordHeader.ofBytes d, ⟨0, 0⟩, true, none, []⟩ := by
  simp [readHeader, init, Reader.peek, h, DnsRecordHeader.ofBytes_take]

theorem readHeader_init_of_lt {d : Bytes} (h : d.length < 12) :
    (init ⟨d, 0⟩ : QuestionParser A).readHeader =
      ⟨⟨d, d.length⟩, true, ⟨0, 0, 0, 0, 0, 0⟩, ⟨0, 0⟩, true, none, []⟩ := by
  simp [readHeader, init, Reader.peek, show ¬12 ≤ d.length by omega]

/-- `stream >> footer`. -/
def readFooter (p : QuestionParser A) : QuestionParser A :=
  match p.reader.peek 4 with
  | some bytes =>
    { p with footer := DnsQuestionFooter.ofBytes bytes, reader.offset := p.reader.offset + 4 }
  | none => { p with failed := true, reader.offset := p.reader.data.length }

/-- The header checks of `IsValidQuestion`: a standard query, not a response, with
    no answer, name-server or additional records. -/
def isValidHeader (header : DnsRecordHeader) : Bool :=
  (header.flags &&& DnsRecordHeader.flagsOpcodeMask) == DnsRecordHeader.flagsOpcodeQuery &&
    (header.flags &&& DnsRecordHeader.flagsResponse) == DnsRecordHeader.flagsQuery &&
    header.answersCount == 0 && header.nameServersCount == 0 && header.additionalRecordsCount == 0

/-- `IsValidQuestion`: the header was read, and passes the checks. -/
def isValidQuestion (p : QuestionParser A) : Bool := !p.failed && isValidHeader p.header

section Decoder

variable (decode : Bytes → Nat → Option (List Label × Nat))

/-- Modelled from the spec: `ReadHostname` decodes the name at the read offset into the
    dotted `reconstructedHostname` and leaves the reader after the name. A name that cannot
    be decoded leaves the reader at the end of the datagram, for the absent
    `DnsHostnamePartsStream` and `ConsumeStream` (§4.3: a malformed name aborts the parse). -/
def readHostname (p : QuestionParser A) : QuestionParser A :=
  match decode p.reader.data p.reader.offset with
  | some (parts, next) =>
    { p with reader.offset := next, reconstructedHostname := joinLabels parts }
  | none => { p with reader.offset := p.reader.data.length, reconstructedHostname := [] }

theorem readHostname_of_some {p : QuestionParser A} {parts : List Label} {next : Nat}
    (h : decode p.reader.data p.reader.offset = some (parts, next)) :
    p.readHostname decode =
      { p with reader.offset := next, reconstructedHostname := joinLabels parts } := by
  simp [readHostname, h]

theorem readHostname_of_none {p : QuestionParser A} (h : decode p.reader.data p.reader.offset = none) :
    p.readHostname decode =
      { p with reader.offset := p.reader.data.length, reconstructedHostname := [] } := by
  simp [readHostname, h]

end Decoder

theorem readFooter_of_le {p : QuestionParser A} (h : p.reader.offset + 4 ≤ p.reader.data.length) :
    p.readFooter = { p with footer := DnsQuestionFooter.ofBytes (p.reader.data.drop p.reader.offset),
                            reader.offset := p.reader.offset + 4 } := by
  simp [readFooter, Reader.peek, h, DnsQuestionFooter.ofBytes_take]

theorem readFooter_of_not_le {p : QuestionParser A} (h : ¬p.reader.offset + 4 ≤ p.reader.data.length) :
    p.readFooter = { p with failed := true, reader.offset := p.reader.data.length } := by
  simp [readFooter, Reader.peek, h]

-- ---------------------------------------------------------------------------
-- Deciding
-- ---------------------------------------------------------------------------

/-- `IsFooterValid`: one of the five supported types, and class IN. -/
def isFooterValid (footer : DnsQuestionFooter) : Bool :=
  (footer.type == DnsType.dnsTypeA.enumCast || footer.type == DnsType.dnsTypeAAAA.enumCast ||
    footer.type == DnsType.dnsTypePtr.enumCast || footer.type == DnsType.dnsTypeSrv.enumCast ||
    footer.type == DnsType.dnsTypeTxt.enumCast) &&
  footer.class_ == dnsClassIn

/-- `HostNameIs`: the parts of the dotted name are exactly `components`. -/
def hostNameIs (reconstructedHostname : Bytes) (components : List Label) : Bool :=
  matchParts components (dnsParts reconstructedHostname)

section Server

variable (server : BonjourServer)

/-- `MyFullInstanceName`. -/
def myFullInstanceName (reconstructedHostname : Bytes) : Bool :=
  hostNameIs reconstructedHostname [server.instanceName, server.serviceName, server.type, localLabel]

/-- `MyShortInstanceName`. -/
def myShortInstanceName (reconstructedHostname : Bytes) : Bool :=
  hostNameIs reconstructedHostname [server.instanceName, localLabel]

/-- `MyServiceName`. -/
def myServiceName (reconstructedHostname : Bytes) : Bool :=
  hostNameIs reconstructedHostname [server.serviceName, server.type, localLabel]

/-- `IsQueryForMe`: the name is the one the footer's type answers for. -/
def isQueryForMe (footer : DnsQuestionFooter) (reconstructedHostname : Bytes) : Bool :=
  (footer.type == DnsType.dnsTypeA.enumCast && myShortInstanceName server reconstructedHostname) ||
  (footer.type == DnsType.dnsTypeAAAA.enumCast && myShortInstanceName server reconstructedHostname) ||
  (footer.type == DnsType.dnsTypeSrv.enumCast && myFullInstanceName server reconstructedHostname) ||
  (footer.type == DnsType.dnsTypeTxt.enumCast && myFullInstanceName server reconstructedHostname) ||
  (footer.type == DnsType.dnsTypePtr.enumCast && myServiceName server reconstructedHostname)

/-- After `ReadHostname` over a name that decodes to `L`, the three matchers compare
    `L` with their patterns label by label, as long as no label of `L` holds a `'.'`. -/
theorem readHostname_matchers_iff (p : QuestionParser A) {L : List Label} {next : Nat}
    (hdec : decodeName p.reader.data p.reader.offset = some (L, next)) (hdot : ∀ l ∈ L, dot ∉ l) :
    let hostname := (p.readHostname decodeName).reconstructedHostname
    (myShortInstanceName server hostname = true ↔ L = [server.instanceName, localLabel]) ∧
    (myFullInstanceName server hostname = true ↔
      L = [server.instanceName, server.serviceName, server.type, localLabel]) ∧
    (myServiceName server hostname = true ↔ L = [server.serviceName, server.type, localLabel]) := by
  have hparts : dnsParts (p.readHostname decodeName).reconstructedHostname = L := by
    rw [readHostname_of_some decodeName hdec]
    exact dnsParts_joinLabels L fun l hl => ⟨decodeName_ne_nil hdec l hl, hdot l hl⟩
  simp [myShortInstanceName, myFullInstanceName, myServiceName, hostNameIs, hparts]

end Server

theorem readHostname_matchers_iff_a_local :
    decodeName [1, 97, 5, 108, 111, 99, 97, 108, 0] 0 = some ([[97], localLabel], 9) ∧
    (∀ l ∈ [[97], localLabel], dot ∉ l) ∧
    (myShortInstanceName ⟨[97], [115], [116], none, none, 0, [], none⟩
        ((init ⟨[1, 97, 5, 108, 111, 99, 97, 108, 0], 0⟩ : QuestionParser Unit).readHostname
          decodeName).reconstructedHostname = true ↔ [[97], localLabel] = [[97], localLabel]) ∧
    (myFullInstanceName ⟨[97], [115], [116], none, none, 0, [], none⟩
        ((init ⟨[1, 97, 5, 108, 111, 99, 97, 108, 0], 0⟩ : QuestionParser Unit).readHostname
          decodeName).reconstructedHostname = true ↔
      [[97], localLabel] = [[97], [115], [116], localLabel]) ∧
    (myServiceName ⟨[97], [115], [116], none, none, 0, [], none⟩
        ((init ⟨[1, 97, 5, 108, 111, 99, 97, 108, 0], 0⟩ : QuestionParser Unit).readHostname
          decodeName).reconstructedHostname = true ↔ [[97], localLabel] = [[115], [116], localLabel]) := by
  have hdec : decodeName [1, 97, 5, 108, 111, 99, 97, 108, 0] 0 = some ([[97], localLabel], 9) := by decide
  have hdot : ∀ l ∈ [[97], localLabel], dot ∉ l := by decide
  exact ⟨hdec, hdot, readHostname_matchers_iff ⟨[97], [115], [116], none, none, 0, [], none⟩
    (init ⟨[1, 97, 5, 108, 111, 99, 97, 108, 0], 0⟩ : QuestionParser Unit) hdec hdot⟩

/-- The name `a.local` sent as one label passes `MyShortInstanceName` for the instance
    `a`: joining and re-splitting takes one label for two. -/
theorem myShortInstanceName_dotted_label :
    decodeName [7, 97, 46, 108, 111, 99, 97, 108, 0] 0 = some ([[97, 46, 108, 111, 99, 97, 108]], 9) ∧
    myShortInstanceName ⟨[97], [], [], none, none, 0, [], none⟩
      ((init ⟨[7, 97, 46, 108, 111, 99, 97, 108, 0], 0⟩ : QuestionParser Unit).readHostname
        decodeName).reconstructedHostname = true ∧
    [[97, 46, 108, 111, 99, 97, 108]] ≠ [[97], localLabel] := by
  decide

/-- The case of the `switch` in `ReadQuestion`: the answer operation of a type. -/
def answerOp : DnsType → Op
  | .dnsTypeA => .addAAnswer
  | .dnsTypeAAAA => .addAaaaAnswer
  | .dnsTypePtr => .addPtrAnswer
  | .dnsTypeSrv => .addSrvAnswer
  | .dnsTypeTxt => .addTxtAnswer

/-- The cases of the `switch` in `ReadQuestionForAdditionalRecords`: the additional
    records a question of a type brings. -/
def additionalOps : Option DnsType → List Op
  | some .dnsTypePtr => [.addTxtAdditional, .addSrvAdditional, .addAAdditional, .addAaaaAdditional]
  | some .dnsTypeSrv => [.addAAdditional, .addAaaaAdditional]
  | _ => []

-- ---------------------------------------------------------------------------
-- The two passes over the questions
-- ---------------------------------------------------------------------------

section Run

variable (server : BonjourServer) (decode : Bytes → Nat → Option (List Label × Nat))
  (perform : Op → A → A)

/-- `perform` each operation in turn. -/
def runOps (ops : List Op) (a : A) : A := ops.foldl (fun a op => perform op a) a

@[simp] theorem runOps_nil : runOps perform [] = (id : A → A) := rfl

@[simp] theorem runOps_append (xs ys : List Op) (a : A) :
    runOps perform (xs ++ ys) a = runOps perform ys (runOps perform xs a) := List.foldl_append _ _ _ _

/-- `answer->Add*()` for each operation in turn. -/
def performAll (ops : List Op) (p : QuestionParser A) : QuestionParser A :=
  { p with answer := p.answer.map (runOps perform ops) }

/-- `ReadQuestion`: read a question and answer it if it is for this responder. `none`
    is the `std::abort()` of the `switch`. -/
def readQuestion (p : QuestionParser A) : Option (QuestionParser A) :=
  let p := (p.readHostname decode).readFooter
  if p.failed || !isFooterValid p.footer then some { p with valid := false }
  else if isQueryForMe server p.footer p.reconstructedHostname then
    match DnsType.ofValue? p.footer.type with
    | some type => some (performAll perform [answerOp type] p)
    | none => none
  else some p

/-- `ReadQuestionForAdditionalRecords`: read a question again and add the
    additional records it brings. -/
def readQuestionForAdditionalRecords (p : QuestionParser A) : QuestionParser A :=
  let p := (p.readHostname decode).readFooter
  if isQueryForMe server p.footer p.reconstructedHostname then
    performAll perform (additionalOps (DnsType.ofValue? p.footer.type)) p
  else p

/-- The first loop of `CreateAnswer`, with `n` iterations to go. -/
def readQuestions : Nat → QuestionParser A → Option (QuestionParser A)
  | 0, p => some p
  | n + 1, p => if p.valid then (readQuestion server decode perform p).bind (readQuestions n) else some p

/-- The second loop of `CreateAnswer`, with `n` iterations to go. -/
def readQuestionsForAdditionalRecords : Nat → QuestionParser A → QuestionParser A
  | 0, p => p
  | n + 1, p =>
    if p.valid then readQuestionsForAdditionalRecords n (readQuestionForAdditionalRecords server decode perform p)
    else p

/-- `CreateAnswer`: read and check the header, make the answer, run both loops over
    the questions from the same start, and drop the answer if a question was invalid. -/
def createAnswer (emplace : UInt16 → A) (p : QuestionParser A) : Option (QuestionParser A) :=
  let p := p.readHeader
  if !p.isValidQuestion then some p
  else
    let p := { p with answer := some (emplace p.header.id) }
    let startOfQuestions := p.reader.constructSaveMarker
    let n := p.header.questionsCount.toNat
    (readQuestions server decode perform n p).map fun p =>
      let p := readQuestionsForAdditionalRecords server decode perform n
        { p with reader := p.reader.rewind startOfQuestions }
      if !p.valid then { p with answer := none } else p

end Run

end QuestionParser

end Bonjour
