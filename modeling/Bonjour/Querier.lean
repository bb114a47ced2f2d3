import Bonjour.Responder

/-!
# What a querier reads

The reader of a reply, modelled from §3 and §4.4 since no reader of resource records is
among the sources: the header, the questions, then as many records as the counts say, each
an owner name, a payload and its data. Beside it stands the table of records an identity
publishes, so that a reply can be read back and compared with what the identity advertises.
-/

namespace Bonjour

open Answer (Op)
open QuestionParser

-- ---------------------------------------------------------------------------
-- Records
-- ---------------------------------------------------------------------------

/-- The data of a resource record, as a querier reads it. -/
inductive RData
  | a (address : IPv4Address)
  | aaaa (address : IPv6Address)
  | ptr (target : List Label)
  | srv (priority weight port : UInt16) (target : List Label)
  | txt (strings : List Label)
  | other (type : UInt16) (data : Bytes)
  deriving DecidableEq

/-- The type code of record data. -/
def RData.type : RData → UInt16
  | .a _ => DnsType.dnsTypeA.enumCast
  | .aaaa _ => DnsType.dnsTypeAAAA.enumCast
  | .ptr _ => DnsType.dnsTypePtr.enumCast
  | .srv _ _ _ _ => DnsType.dnsTypeSrv.enumCast
  | .txt _ => DnsType.dnsTypeTxt.enumCast
  | .other type _ => type

/-- A resource record: its owner name, class, time to live and data. -/
structure ResourceRecord where
  name : List Label
  class_ : UInt16
  ttl : UInt32
  data : RData
  deriving DecidableEq

-- ---------------------------------------------------------------------------
-- Reading a message
-- ---------------------------------------------------------------------------

/-- The character strings of TXT data, each after its one-byte length, up to the end of
    the data; `fuel` bounds their number. -/
def readStrings : Nat → Bytes → Option (List Label)
  | _, [] => some []
  | 0, _ :: _ => none
  | fuel + 1, n :: rest =>
    if n.toNat ≤ rest.length then (readStrings fuel (rest.drop n.toNat)).map (rest.take n.toNat :: ·)
    else none

/-- The data of a record of type `type` in the `len` bytes of `d` from `start`. -/
def readRData (d : Bytes) (type : UInt16) (start len : Nat) : Option RData :=
  let data := (d.drop start).take len
  match DnsType.ofValue? type with
  | some .dnsTypeA => if h : data.length = 4 then some (.a ⟨data, h⟩) else none
  | some .dnsTypeAAAA => if h : data.length = 16 then some (.aaaa ⟨data, h⟩) else none
  | some .dnsTypePtr =>
    match decodeName d start with
    | some (target, next) => if next = start + len then some (.ptr target) else none
    | none => none
  | some .dnsTypeSrv =>
    match decodeName d (start + 6) with
    | some (target, next) =>
      if next = start + len then
        some (.srv (ofBe16 data) (ofBe16 (data.drop 2)) (ofBe16 (data.drop 4)) target)
      else none
    | none => none
  | some .dnsTypeTxt => (readStrings len data).map .txt
  | none => some (.other type data)

/-- The record at `pos` and the offset after it: the owner name, the payload, and the
    data its rdlength covers. -/
def readRecord (d : Bytes) (pos : Nat) : Option (ResourceRecord × Nat) :=
  match decodeName d pos with
  | some (name, next) =>
    let p := DnsRecordPayload.ofBytes (d.drop next)
    let stop := next + 10 + p.rdLength.toNat
    if stop ≤ d.length then
      (readRData d p.type (next + 10) p.rdLength.toNat).map fun data =>
        (⟨name, p.class_, p.ttl, data⟩, stop)
    else none
  | none => none

/-- `n` records from `pos` on, in order, and the offset after the last. -/
def readRecords (d : Bytes) : Nat → Nat → Option (List ResourceRecord × Nat)
  | 0, pos => some ([], pos)
  | n + 1, pos => (readRecord d pos).bind fun (r, next) =>
    (readRecords d n next).map fun (rs, stop) => (r :: rs, stop)

/-- The offset after `n` questions from `pos` on, each a name and a footer. -/
def skipQuestions (d : Bytes) : Nat → Nat → Option Nat
  | 0, pos => some pos
  | n + 1, pos => (decodeName d pos).bind fun (_, next) =>
    if next + 4 ≤ d.length then skipQuestions d n (next + 4) else none

/-- A message as a querier reads it: the header, the questions, and as many records as
    the answer, name server and additional counts add up to, which must end the message. -/
def readMessage (d : Bytes) : Option (DnsRecordHeader × List ResourceRecord) :=
  if 12 ≤ d.length then
    let h := DnsRecordHeader.ofBytes d
    (skipQuestions d h.questionsCount.toNat 12).bind fun pos =>
      match readRecords d (h.answersCount.toNat + h.nameServersCount.toNat +
          h.additionalRecordsCount.toNat) pos with
      | some (rs, stop) => if stop = d.length then some (h, rs) else none
      | none => none
  else none

/-- The header a querier reads is the one at the start of the message. -/
theorem readMessage_header {d : Bytes} {hdr : DnsRecordHeader} {rrs : List ResourceRecord}
    (h : readMessage d = some (hdr, rrs)) : hdr = DnsRecordHeader.ofBytes d := by
  unfold readMessage at h
  split at h
  · obtain ⟨pos, -, h⟩ := Option.bind_eq_some.mp h
    split at h
    · split at h
      · exact (Prod.mk.inj (Option.some.inj h)).1.symm
      · cases h
    · cases h
  · cases h

/-- TXT strings read back as written, when each fits its length byte. -/
theorem readStrings_encodeParts (parts : List Label) (h : ∀ t ∈ parts, t.length < 256) (fuel : Nat)
    (hfuel : parts.length ≤ fuel) : readStrings fuel (encodeParts parts) = some parts := by
  induction parts generalizing fuel with
  | nil => cases fuel <;> rfl
  | cons t ts ih =>
    obtain ⟨fuel, rfl⟩ : ∃ f, fuel = f + 1 := ⟨fuel - 1, by simp at hfuel; omega⟩
    have ht : (UInt8.ofNat t.length).toNat = t.length := by
      simpa using Nat.mod_eq_of_lt (h t (List.mem_cons_self _ _))
    have hrest := ih (fun t' ht' => h t' (List.mem_cons_of_mem _ ht')) fuel (by simp at hfuel; omega)
    rw [encodeParts_cons, readStrings, ht, if_pos (by simp), List.drop_left, List.take_left, hrest]
    rfl

-- ---------------------------------------------------------------------------
-- What the responder's records stand for
-- ---------------------------------------------------------------------------

namespace Answer

variable (server : BonjourServer)

/-- The data §4.4 gives the record of a type: the address, the full instance name, the
    port and short instance name, or the text; `none` for an address not configured. -/
def recordData : DnsType → Option RData
  | .dnsTypeA => server.ipv4Address.map .a
  | .dnsTypeAAAA => server.ipv6Address.map .aaaa
  | .dnsTypePtr => some (.ptr (fullName server))
  | .dnsTypeSrv => some (.srv 0 0 server.port (shortName server))
  | .dnsTypeTxt => some (.txt server.text)

/-- The record of a type the identity publishes: its type's owner name, class IN, a time
    to live of 60 seconds, and its type's data. -/
def typeRecord (t : DnsType) : Option ResourceRecord :=
  (recordData server t).map fun data => ⟨ownerName server t, dnsClassIn, 60, data⟩

/-- The record an operation stands for: that of its type. -/
def resourceRecord (op : Op) : Option ResourceRecord := typeRecord server op.recordType

/-- The records the identity publishes, one for each type it holds data for: the address
    records of its short instance name, the PTR record of its service name, and the SRV
    and TXT records of its full instance name. -/
def published : List ResourceRecord :=
  [DnsType.dnsTypeA, .dnsTypeAAAA, .dnsTypePtr, .dnsTypeSrv, .dnsTypeTxt].filterMap (typeRecord server)

/-- The published records a question for `name` finds: those of its name, of the type
    its footer asks for and of its footer's class. -/
def lookup (name : List Label) (footer : DnsQuestionFooter) : List ResourceRecord :=
  (published server).filter fun rr =>
    rr.name == name && rr.data.type == footer.type && rr.class_ == footer.class_

/-- An identity whose records a querier can read back: the labels of its names are well
    formed and the full instance name fits in 255 bytes; every text part fits its length
    byte and the whole text the 16-bit rdlength. -/
structure Readable : Prop where
  instanceName : server.instanceName.Wellformed
  serviceName : server.serviceName.Wellformed
  type : server.type.Wellformed
  full : streamedSize (fullName server) ≤ 255
  textParts : ∀ t ∈ server.text, t.length < 256
  text : streamedSize server.text ≤ 65536

theorem recordData_isSome (t : DnsType) : (recordData server t).isSome = (rdata server t).isSome := by
  cases t <;> simp [recordData, rdata]

theorem resourceRecord_isSome (op : Op) :
    (resourceRecord server op).isSome = (record server op).isSome := by
  simp [resourceRecord, typeRecord, record, recordData_isSome]

theorem localLabel_wellformed : localLabel.Wellformed := by
  unfold Label.Wellformed; decide

variable {server}

theorem recordData_type {t : DnsType} {v : RData} (h : recordData server t = some v) :
    v.type = t.enumCast := by
  cases t with
  | dnsTypeA | dnsTypeAAAA => obtain ⟨_, -, rfl⟩ := Option.map_eq_some'.mp h; rfl
  | _ => cases h; rfl

theorem typeRecord_spec {t : DnsType} {rr : ResourceRecord} (h : typeRecord server t = some rr) :
    rr.name = ownerName server t ∧ rr.class_ = dnsClassIn ∧ rr.data.type = t.enumCast := by
  obtain ⟨v, hv, rfl⟩ := Option.map_eq_some'.mp h
  exact ⟨rfl, rfl, recordData_type hv⟩

theorem typeRecord_mem_published {t : DnsType} {rr : ResourceRecord}
    (h : typeRecord server t = some rr) : rr ∈ published server :=
  List.mem_filterMap.mpr ⟨t, by cases t <;> simp, h⟩

/-- A question of one of the five types in class IN finds the record of its type when
    its name is that type's owner name, and nothing otherwise. -/
theorem lookup_of_type {f : DnsQuestionFooter} {t : DnsType} (hf : f.type = t.enumCast)
    (hc : f.class_ = dnsClassIn) (name : List Label) :
    lookup server name f = if ownerName server t = name then (typeRecord server t).toList else [] := by
  have hfilter : ∀ t', (typeRecord server t').filter (fun rr =>
      rr.name == name && rr.data.type == f.type && rr.class_ == f.class_) =
        if t' = t ∧ ownerName server t = name then typeRecord server t' else none := by
    intro t'
    cases h : typeRecord server t' with
    | none => simp
    | some rr =>
      obtain ⟨hname, hclass, htype⟩ := typeRecord_spec h
      by_cases ht : t' = t
      · subst ht; by_cases hn : ownerName server t' = name <;> simp [Option.filter, hname, hclass, htype, hf, hc, hn]
      · simp [Option.filter, hname, hclass, htype, hf, hc, ht]
  simp only [lookup, published, List.filter_filterMap, hfilter]
  by_cases hn : ownerName server t = name <;> rcases ho : typeRecord server t with _ | rr <;>
    cases t <;> simp [hn, ho, List.filterMap_cons]

/-- The three names of a readable identity decode. -/
theorem Readable.decodable (h : Readable server) (parts : List Label)
    (hp : parts ∈ [shortName server, serviceNameParts server, fullName server]) :
    (∀ l ∈ parts, l.Wellformed) ∧ streamedSize parts ≤ 255 := by
  have hfull := h.full
  simp only [fullName, streamedSize_cons, streamedSize_nil] at hfull
  simp only [List.mem_cons, List.mem_singleton, List.not_mem_nil, or_false] at hp
  rcases hp with rfl | rfl | rfl <;>
    simp only [shortName, serviceNameParts, fullName, List.mem_cons, List.mem_singleton,
      List.not_mem_nil, or_false, forall_eq_or_imp, forall_eq, streamedSize_cons, streamedSize_nil] <;>
    exact ⟨by simp [h.instanceName, h.serviceName, h.type, localLabel_wellformed], by omega⟩

/-- The data of every record a readable identity writes reads back as the data §4.4
    gives it. -/
theorem Readable.readRData_rdata (h : Readable server) (t : DnsType) {data : Bytes}
    (hd : rdata server t = some data) (pre post : Bytes) :
    readRData (pre ++ data ++ post) t.enumCast pre.length data.length = recordData server t := by
  have htake : ((pre ++ data ++ post).drop pre.length).take data.length = data := by
    rw [List.append_assoc, List.drop_left, List.take_left]
  cases t with
  | dnsTypeA =>
    obtain ⟨a, ha, rfl⟩ := Option.map_eq_some'.mp hd
    simp [readRData, htake, recordData, ha, a.length_eq]
  | dnsTypeAAAA =>
    obtain ⟨a, ha, rfl⟩ := Option.map_eq_some'.mp hd
    simp [readRData, htake, recordData, ha, a.length_eq]
  | dnsTypePtr =>
    cases hd
    obtain ⟨hwf, hsize⟩ := h.decodable (fullName server) (by simp)
    simp only [readRData, DnsType.ofValue?_enumCast]
    rw [decodeName_encodeName _ hwf hsize]
    simp [recordData, encodeName_length]
  | dnsTypeSrv =>
    cases hd
    obtain ⟨hwf, hsize⟩ := h.decodable (shortName server) (by simp)
    have hdec : decodeName (pre ++ (be16 0 ++ be16 0 ++ be16 server.port ++
        encodeName (shortName server)) ++ post) (pre.length + 6) =
          some (shortName server, pre.length + 6 + streamedSize (shortName server)) := by
      simpa using decodeName_encodeName _ hwf hsize (pre ++ be16 0 ++ be16 0 ++ be16 server.port) post
    simp only [readRData, DnsType.ofValue?_enumCast, htake, hdec]
    simp [recordData, encodeName_length, List.drop_append_eq_append_drop, List.drop_eq_nil_of_le]
    omega
  | dnsTypeTxt =>
    cases hd
    have hlen := length_lt_streamedSize server.text
    rw [← encodeParts_length] at hlen
    simp [readRData, htake, recordData,
      readStrings_encodeParts _ h.textParts (encodeParts server.text).length (by omega)]

theorem ownerName_mem (t : DnsType) :
    ownerName server t ∈ [shortName server, serviceNameParts server, fullName server] := by
  cases t <;> simp [ownerName]

theorem payload_type (t : DnsType) : (payload server t).type = t.enumCast := by
  cases t <;> rfl

@[simp] theorem payload_class (t : DnsType) : (payload server t).class_ = dnsClassIn := by
  cases t <;> rfl

@[simp] theorem payload_ttl (t : DnsType) : (payload server t).ttl = 60 := by
  cases t <;> rfl

/-- The rdlength of every record a readable identity writes is the length of its data. -/
theorem Readable.payload_rdLength (h : Readable server) (t : DnsType) {data : Bytes}
    (hd : rdata server t = some data) : (payload server t).rdLength.toNat = data.length := by
  cases t with
  | dnsTypeA =>
    obtain ⟨a, -, rfl⟩ := Option.map_eq_some'.mp hd
    simp [payload, a.length_eq]
  | dnsTypeAAAA =>
    obtain ⟨a, -, rfl⟩ := Option.map_eq_some'.mp hd
    simp [payload, a.length_eq]
  | dnsTypePtr =>
    cases hd
    have := h.full
    simp [payload, encodeName_length]; omega
  | dnsTypeSrv =>
    cases hd
    have := (h.decodable (shortName server) (by simp)).2
    simp [payload, encodeName_length]; omega
  | dnsTypeTxt =>
    cases hd
    have := h.text
    have := encodeParts_length server.text
    simp only [payload, UInt16.toNat_ofNat']; omega

/-- Every record a readable identity writes reads back, wherever it sits, as the record
    its operation stands for, and the reader ends just after it. -/
theorem Readable.readRecord_record (h : Readable server) (op : Op) {r : Bytes}
    (hr : record server op = some r) (pre post : Bytes) :
    readRecord (pre ++ r ++ post) pre.length =
      (resourceRecord server op).map (·, pre.length + r.length) := by
  obtain ⟨data, hd, rfl⟩ := Option.map_eq_some'.mp hr
  simp only [resourceRecord, typeRecord]
  generalize op.recordType = t at hd ⊢
  obtain ⟨hwf, hsize⟩ := h.decodable _ (ownerName_mem t)
  set own := encodeName (ownerName server t)
  set pay := (payload server t).toBytes
  have hlen : (pre ++ own).length = pre.length + streamedSize (ownerName server t) := by
    simp [own, encodeName_length]
  have hname : decodeName (pre ++ (own ++ pay ++ data) ++ post) pre.length =
      some (ownerName server t, (pre ++ own).length) := by
    rw [hlen]; simpa [own] using decodeName_encodeName _ hwf hsize pre (pay ++ data ++ post)
  have hpay : DnsRecordPayload.ofBytes ((pre ++ (own ++ pay ++ data) ++ post).drop (pre ++ own).length) =
      payload server t := by
    rw [show pre ++ (own ++ pay ++ data) ++ post = (pre ++ own) ++ (pay ++ (data ++ post)) by simp,
      List.drop_left, DnsRecordPayload.ofBytes_toBytes]
  have hdata : readRData (pre ++ (own ++ pay ++ data) ++ post) (payload server t).type
      ((pre ++ own).length + 10) data.length = recordData server t := by
    rw [payload_type,
      show pre ++ (own ++ pay ++ data) ++ post = (pre ++ own ++ pay) ++ data ++ post by simp,
      show (pre ++ own).length + 10 = (pre ++ own ++ pay).length by simp [pay]; omega]
    exact h.readRData_rdata t hd _ post
  simp only [readRecord, hname, hpay, h.payload_rdLength t hd, hdata]
  rw [if_pos (by simp [pay]; omega)]
  cases recordData server t <;> simp [pay]
  omega

theorem records_cons (op : Op) (ops : List Op) :
    records server (op :: ops) = (record server op).getD [] ++ records server ops := by
  cases hr : record server op <;> simp [records, hr]

/-- The records of a run of operations read back in order as the records the operations
    stand for, and the reader ends just after them. -/
theorem Readable.readRecords_records (h : Readable server) (ops : List Op) (pre post : Bytes) :
    readRecords (pre ++ records server ops ++ post) (ops.filterMap (record server)).length pre.length =
      some (ops.filterMap (resourceRecord server), pre.length + (records server ops).length) := by
  induction ops generalizing pre with
  | nil => simp [records, readRecords]
  | cons op ops ih =>
    cases hr : record server op with
    | none =>
      have hrr : resourceRecord server op = none := by
        simpa [hr] using resourceRecord_isSome server op
      simpa [records_cons, hr, hrr] using ih pre
    | some r =>
      obtain ⟨rr, hrr⟩ : ∃ rr, resourceRecord server op = some rr :=
        Option.isSome_iff_exists.mp (by rw [resourceRecord_isSome, hr]; rfl)
      have hrec := h.readRecord_record op hr pre (records server ops ++ post)
      have hrest := ih (pre ++ r)
      simp only [List.append_assoc, List.length_append, hrr, Option.map_some'] at hrec hrest
      simp only [records_cons, hr, Option.getD_some, List.filterMap_cons, hrr, List.length_cons,
        readRecords, List.append_assoc, hrec, Option.some_bind, hrest, Option.map_some',
        List.length_append, Nat.add_assoc]

theorem length_filterMap_resourceRecord (ops : List Op) :
    (ops.filterMap (resourceRecord server)).length = (ops.filterMap (record server)).length := by
  induction ops with
  | nil => rfl
  | cons op ops ih =>
    have := resourceRecord_isSome server op
    cases hr : record server op <;> cases hrr : resourceRecord server op <;> simp_all

end Answer

-- ---------------------------------------------------------------------------
-- The reply, read back
-- ---------------------------------------------------------------------------

namespace QuestionParser

variable (server : BonjourServer)

/-- The records a query asks for in the answer section: every question's answer record,
    in wire order. -/
def answerRecords (qs : List Question) : List ResourceRecord :=
  (qs.map (·.answerOps server)).flatten.filterMap (Answer.resourceRecord server)

/-- The records a query brings in the additional section: every question's additional
    records, in wire order. -/
def additionalRecords (qs : List Question) : List ResourceRecord :=
  (qs.map (·.additionalOps server)).flatten.filterMap (Answer.resourceRecord server)

variable {server}

/-- The reply to a query that `CreateAnswer` plans for, read back: for a readable
    identity and at most 16383 questions, a response to the query's id with no question
    and no name server record, the records the questions ask for in the answer section and
    the records they bring in the additional one, each section counted by the header. -/
theorem readMessage_reply (hs : Answer.Readable server) {d : Bytes} {queryId : UInt16}
    {qs : List Question} (he : expected server decodeName d = some (queryId, plan server qs))
    (hq : qs.length ≤ 16383) :
    ∃ reply h, response server d = some reply ∧
      readMessage reply = some (h, answerRecords server qs ++ additionalRecords server qs) ∧
      h.id = queryId ∧ h.flags = DnsRecordHeader.flagsResponse ∧
      h.questionsCount = 0 ∧ h.nameServersCount = 0 ∧
      h.answersCount.toNat = (answerRecords server qs).length ∧
      h.additionalRecordsCount.toNat = (additionalRecords server qs).length := by
  have hans : Answer.answerCount server (plan server qs) = (answerRecords server qs).length := by
    rw [answerCount_plan, answerRecords, Answer.length_filterMap_resourceRecord]
  have hadd : Answer.additionalCount server (plan server qs) = (additionalRecords server qs).length := by
    rw [additionalCount_plan, additionalRecords, Answer.length_filterMap_resourceRecord]
  have hans_le : (answerRecords server qs).length ≤ 16383 :=
    ((List.length_filterMap_le _ _).trans (answerOps_flatten_length_le server qs)).trans hq
  have hadd_le : (additionalRecords server qs).length ≤ 65532 :=
    ((List.length_filterMap_le _ _).trans (additionalOps_flatten_length_le server qs)).trans (by omega)
  set hdr : DnsRecordHeader := ⟨queryId, DnsRecordHeader.flagsResponse, 0,
    UInt16.ofNat (Answer.answerCount server (plan server qs)), 0,
    UInt16.ofNat (Answer.additionalCount server (plan server qs))⟩ with hhdr
  refine ⟨hdr.toBytes ++ Answer.records server (plan server qs), hdr, by simp [response, he, hdr], ?_,
    rfl, rfl, rfl, rfl, by simp [hdr, hans]; omega, by simp [hdr, hadd]; omega⟩
  clear_value hdr
  have hcount : hdr.answersCount.toNat + hdr.nameServersCount.toNat + hdr.additionalRecordsCount.toNat =
      ((plan server qs).filterMap (Answer.record server)).length := by
    rw [← Answer.answerCount_add_additionalCount, hhdr]
    simp [hans, hadd]; omega
  have hrecs := hs.readRecords_records (plan server qs) hdr.toBytes []
  rw [List.append_nil, DnsRecordHeader.toBytes_length] at hrecs
  have hq0 : hdr.questionsCount.toNat = 0 := by rw [hhdr]; rfl
  have hrrs : (plan server qs).filterMap (Answer.resourceRecord server) =
      answerRecords server qs ++ additionalRecords server qs := by
    rw [plan, List.filterMap_append]; rfl
  simp only [readMessage, DnsRecordHeader.ofBytes_toBytes, hcount, hq0, skipQuestions, Option.some_bind,
    hrecs, hrrs, List.length_append, DnsRecordHeader.toBytes_length]
  simp

/-- Round trip of the reply: for a readable identity, the reply to a query of at most
    16383 questions reads back as a response to the query's id, with no question and no
    name server record, the records the query asks for in the answer section and the
    records its questions bring in the additional one, each section counted by the header. -/
theorem readMessage_response (hs : Answer.Readable server) {d reply : Bytes}
    (hr : response server d = some reply)
    (hq : (DnsRecordHeader.ofBytes d).questionsCount.toNat ≤ 16383) :
    ∃ qs, validQuestionsAt decodeName d (DnsRecordHeader.ofBytes d).questionsCount.toNat 12 = some qs ∧
      ∃ h, readMessage reply = some (h, answerRecords server qs ++ additionalRecords server qs) ∧
        h.id = (DnsRecordHeader.ofBytes d).id ∧ h.flags = DnsRecordHeader.flagsResponse ∧
        h.questionsCount = 0 ∧ h.nameServersCount = 0 ∧
        h.answersCount.toNat = (answerRecords server qs).length ∧
        h.additionalRecordsCount.toNat = (additionalRecords server qs).length := by
  obtain ⟨⟨queryId, ops⟩, he, -⟩ := Option.map_eq_some'.mp hr
  obtain ⟨qs, hqs, rfl, rfl⟩ := expected_eq_some he
  obtain ⟨reply', h, hr', hread⟩ :=
    readMessage_reply hs he ((validQuestionsAt_length decodeName hqs).symm ▸ hq)
  obtain rfl : reply = reply' := Option.some.inj (hr.symm.trans hr')
  exact ⟨qs, hqs, h, hread⟩

/-- Every question the parser reads takes at least five bytes: a name of one byte or more
    and the four bytes of its footer. -/
theorem validQuestionsAt_length_le {d : Bytes} {n pos : Nat} {qs : List Question}
    (h : validQuestionsAt decodeName d n pos = some qs) : pos + 5 * n ≤ max pos d.length := by
  induction n generalizing pos qs with
  | zero => omega
  | succ n ih =>
    rw [validQuestionsAt_succ] at h
    split at h
    · rename_i q next hq
      split_ifs at h with hok
      obtain ⟨qs', h', -⟩ := Option.map_eq_some'.mp h
      obtain ⟨⟨name, next'⟩, hdec, heq⟩ := Option.map_eq_some'.mp hq
      cases heq
      have hgt := decodeName_next_gt hdec
      have hfoot : next' + 4 ≤ d.length := by
        by_contra hn
        simp [Question.footerOk, footerAt, hn] at hok
      have := ih h'
      omega
    · cases h

/-- The 16-bit counts of a reply never wrap for a datagram a UDP packet can carry: a
    datagram of at most 65535 bytes holds at most 13104 questions, so the header of the reply
    counts the records of its answer section and of its additional section exactly. -/
theorem response_counts_of_length_le (server : BonjourServer) {d reply : Bytes}
    (hr : response server d = some reply) (hlen : d.length ≤ 65535) :
    ∃ qs, validQuestionsAt decodeName d (DnsRecordHeader.ofBytes d).questionsCount.toNat 12 = some qs ∧
      qs.length ≤ 13104 ∧
      (DnsRecordHeader.ofBytes reply).answersCount.toNat = (answerRecords server qs).length ∧
      (DnsRecordHeader.ofBytes reply).additionalRecordsCount.toNat = (additionalRecords server qs).length := by
  obtain ⟨⟨queryId, ops⟩, he, rfl⟩ := Option.map_eq_some'.mp hr
  obtain ⟨qs, hqs, rfl, rfl⟩ := expected_eq_some he
  have hbound := validQuestionsAt_length_le hqs
  rw [← validQuestionsAt_length decodeName hqs] at hbound
  have hq : qs.length ≤ 13104 := by omega
  have hans : Answer.answerCount server (plan server qs) = (answerRecords server qs).length := by
    rw [answerCount_plan, answerRecords, Answer.length_filterMap_resourceRecord]
  have hadd : Answer.additionalCount server (plan server qs) = (additionalRecords server qs).length := by
    rw [additionalCount_plan, additionalRecords, Answer.length_filterMap_resourceRecord]
  have hans_le : (answerRecords server qs).length ≤ qs.length :=
    (List.length_filterMap_le _ _).trans (answerOps_flatten_length_le server qs)
  have hadd_le : (additionalRecords server qs).length ≤ 4 * qs.length :=
    (List.length_filterMap_le _ _).trans (additionalOps_flatten_length_le server qs)
  refine ⟨qs, hqs, hq, ?_, ?_⟩ <;> dsimp only <;>
    rw [DnsRecordHeader.ofBytes_toBytes, UInt16.toNat_ofNat', Nat.mod_eq_of_lt (by omega)]
  · exact hans
  · exact hadd

theorem response_counts_of_length_le_a_query :
    response hostIdentity aQuery = some aReply ∧
    aQuery.length ≤ 65535 ∧
    ∃ qs, validQuestionsAt decodeName aQuery
        (DnsRecordHeader.ofBytes aQuery).questionsCount.toNat 12 = some qs ∧
      qs.length ≤ 13104 ∧
      (DnsRecordHeader.ofBytes aReply).answersCount.toNat =
          (answerRecords hostIdentity qs).length ∧
      (DnsRecordHeader.ofBytes aReply).additionalRecordsCount.toNat =
          (additionalRecords hostIdentity qs).length := by
  have hr : response hostIdentity aQuery = some aReply := by decide
  exact ⟨hr, by decide, response_counts_of_length_le _ hr (by decide)⟩

/-- The identity `i.s.t.local` at `10.0.0.1` can be read back. -/
theorem readable_a_query : Answer.Readable hostIdentity :=
  ⟨by unfold Label.Wellformed; decide, by unfold Label.Wellformed; decide,
    by unfold Label.Wellformed; decide, by decide, by decide, by decide⟩

theorem readMessage_response_a_query :
    Answer.Readable hostIdentity ∧
    response hostIdentity aQuery = some aReply ∧
    (DnsRecordHeader.ofBytes aQuery).questionsCount.toNat ≤ 16383 ∧
    ∃ qs, validQuestionsAt decodeName aQuery
        (DnsRecordHeader.ofBytes aQuery).questionsCount.toNat 12 = some qs ∧
      ∃ h, readMessage aReply =
          some (h, answerRecords hostIdentity qs ++
            additionalRecords hostIdentity qs) ∧
        h.id = (DnsRecordHeader.ofBytes aQuery).id ∧
        h.flags = DnsRecordHeader.flagsResponse ∧ h.questionsCount = 0 ∧ h.nameServersCount = 0 ∧
        h.answersCount.toNat = (answerRecords hostIdentity qs).length ∧
        h.additionalRecordsCount.toNat =
          (additionalRecords hostIdentity qs).length := by
  have hr : response hostIdentity aQuery = some aReply := by decide
  have hq : (DnsRecordHeader.ofBytes aQuery).questionsCount.toNat ≤ 16383 := by
    decide
  exact ⟨readable_a_query, hr, hq, readMessage_response readable_a_query hr hq⟩

end QuestionParser

-- ---------------------------------------------------------------------------
-- Answers answer their questions
-- ---------------------------------------------------------------------------

theorem answerOp_recordType (t : DnsType) : (answerOp t).recordType = t := by
  cases t <;> rfl

/-- `IsQueryForMe` on a footer of one of the five types asks whether the name is the
    owner name of that type's records. -/
theorem isQueryForMe_of_type (server : BonjourServer) {f : DnsQuestionFooter} {t : DnsType}
    (hf : f.type = t.enumCast) (hostname : Bytes) :
    isQueryForMe server f hostname = hostNameIs hostname (Answer.ownerName server t) := by
  cases t <;> simp [isQueryForMe, hf, Answer.ownerName, myShortInstanceName, myFullInstanceName,
    myServiceName, Answer.shortName, Answer.fullName, Answer.serviceNameParts, DnsType.enumCast]

/-- The names of the questions read from a datagram have no empty label. -/
theorem validQuestionsAt_name_ne_nil {d : Bytes} {n pos : Nat} {qs : List Question}
    (h : validQuestionsAt decodeName d n pos = some qs) : ∀ q ∈ qs, ∀ l ∈ q.name, l ≠ [] := by
  induction n generalizing pos qs with
  | zero =>
    simp only [validQuestionsAt, questionsAt, Option.filter_some, List.all_nil, if_true,
      Option.some.injEq] at h
    simp [← h]
  | succ n ih =>
    rw [validQuestionsAt_succ] at h
    cases hq : questionAt decodeName d pos with
    | none => simp [hq] at h
    | some r =>
      obtain ⟨q', next⟩ := r
      simp only [hq] at h
      split_ifs at h
      obtain ⟨qs', h', rfl⟩ := Option.map_eq_some'.mp h
      intro q hmem
      rcases List.mem_cons.mp hmem with rfl | hmem
      · obtain ⟨⟨name, _⟩, hdec, heq⟩ := Option.map_eq_some'.mp hq
        cases heq
        exact decodeName_ne_nil hdec
      · exact ih h' q hmem

/-- The footers `IsFooterValid` accepts: one of the five types, in class IN. -/
theorem isFooterValid_type {f : DnsQuestionFooter} (h : isFooterValid f = true) :
    ∃ t : DnsType, f.type = t.enumCast ∧ f.class_ = dnsClassIn := by
  simp only [isFooterValid, Bool.and_eq_true, Bool.or_eq_true, beq_iff_eq] at h
  obtain ⟨(((h | h) | h) | h) | h, hc⟩ := h <;> exact ⟨_, h, hc⟩

theorem validQuestionsAt_footerOk {d : Bytes} {n pos : Nat} {qs : List Question}
    (h : validQuestionsAt decodeName d n pos = some qs) : ∀ q ∈ qs, q.footerOk = true := by
  simpa using (Option.filter_eq_some.mp h).2

/-- A question with a valid footer, whose labels are neither empty nor hold a `'.'`, finds
    among the published records exactly the record its answer operation writes. -/
theorem Question.filterMap_answerOps_eq_lookup (server : BonjourServer) {name : List Label}
    {f : DnsQuestionFooter} (hok : isFooterValid f = true) (hname : ∀ l ∈ name, l ≠ [] ∧ dot ∉ l) :
    ((⟨name, some f⟩ : Question).answerOps server).filterMap (Answer.resourceRecord server) =
      Answer.lookup server name f := by
  obtain ⟨t, hf, hc⟩ := isFooterValid_type hok
  rw [Answer.lookup_of_type hf hc]
  simp only [Question.answerOps, isQueryForMe_of_type server hf, hostNameIs, matchParts_iff,
    dnsParts_joinLabels name hname, hf, DnsType.ofValue?_enumCast]
  by_cases hn : Answer.ownerName server t = name
  · cases h : Answer.typeRecord server t <;> simp [hn, h, Answer.resourceRecord, answerOp_recordType]
  · simp [hn, Ne.symm hn]

theorem answerRecords_eq_flatMap_lookup (server : BonjourServer) {qs : List Question}
    (h : ∀ q ∈ qs, q.footerOk = true ∧ ∀ l ∈ q.name, l ≠ [] ∧ dot ∉ l) :
    answerRecords server qs = qs.flatMap fun q => q.footer.elim [] (Answer.lookup server q.name) := by
  rw [answerRecords, List.filterMap_flatten, List.map_map, List.flatMap_def]
  congr 1
  refine List.map_congr_left fun q hq => ?_
  obtain ⟨hok, hname⟩ := h q hq
  obtain ⟨name, _ | f⟩ := q
  · simp [Question.footerOk] at hok
  · exact Question.filterMap_answerOps_eq_lookup server (by simpa [Question.footerOk] using hok) hname

/-- The answer section is the table of published records read by each question in turn:
    for the questions read from any datagram, as long as no label of their names holds a
    `'.'`, the answer records are, question by question in wire order, the published
    records of the question's name, type and class. -/
theorem answerRecords_eq_lookup (server : BonjourServer) {d : Bytes} {n pos : Nat}
    {qs : List Question} (hqs : validQuestionsAt decodeName d n pos = some qs)
    (hdot : ∀ q ∈ qs, ∀ l ∈ q.name, dot ∉ l) :
    answerRecords server qs = qs.flatMap fun q => q.footer.elim [] (Answer.lookup server q.name) :=
  answerRecords_eq_flatMap_lookup server fun q hq => ⟨validQuestionsAt_footerOk hqs q hq,
    fun l hl => ⟨validQuestionsAt_name_ne_nil hqs q hq l hl, hdot q hq l hl⟩⟩

theorem answerRecords_eq_lookup_a_query :
    validQuestionsAt decodeName aQuery 1 12 =
      some [⟨[[105], localLabel], some ⟨1, 1⟩⟩] ∧
    (∀ q ∈ [(⟨[[105], localLabel], some ⟨1, 1⟩⟩ : Question)], ∀ l ∈ q.name, dot ∉ l) ∧
    answerRecords hostIdentity
        [⟨[[105], localLabel], some ⟨1, 1⟩⟩] =
      [(⟨[[105], localLabel], some ⟨1, 1⟩⟩ : Question)].flatMap fun q =>
        q.footer.elim [] (Answer.lookup hostIdentity q.name) := by
  have hqs : validQuestionsAt decodeName aQuery 1 12 =
      some [⟨[[105], localLabel], some ⟨1, 1⟩⟩] := by decide
  have hdot : ∀ q ∈ [(⟨[[105], localLabel], some ⟨1, 1⟩⟩ : Question)], ∀ l ∈ q.name, dot ∉ l := by decide
  exact ⟨hqs, hdot, answerRecords_eq_lookup _ hqs hdot⟩

-- ---------------------------------------------------------------------------
-- Replies are not answered
-- ---------------------------------------------------------------------------

/-- Every reply opens with a header that carries the response flag. -/
theorem response_header {server : BonjourServer} {d reply : Bytes} (hr : response server d = some reply) :
    ∃ (h : DnsRecordHeader) (rest : Bytes), reply = h.toBytes ++ rest ∧ h.flags = DnsRecordHeader.flagsResponse := by
  obtain ⟨⟨queryId, ops⟩, -, rfl⟩ := Option.map_eq_some'.mp hr
  exact ⟨_, _, rfl, rfl⟩

/-- A datagram whose header carries the response flag has no answer: `IsValidQuestion`
    turns it down. -/
theorem expected_of_flagsResponse (server : BonjourServer) (decode : Bytes → Nat → Option (List Label × Nat))
    {h : DnsRecordHeader} (rest : Bytes) (hf : h.flags = DnsRecordHeader.flagsResponse) :
    expected server decode (h.toBytes ++ rest) = none := by
  have hresponse : (DnsRecordHeader.flagsResponse &&& DnsRecordHeader.flagsResponse ==
      DnsRecordHeader.flagsQuery) = false := by decide
  have hinvalid : isValidHeader h = false := by simp [isValidHeader, hf, hresponse]
  simp [expected, headerAt, DnsRecordHeader.ofBytes_toBytes, hinvalid]

/-- The dry run of any responder over a reply finds no answer. -/
theorem hasAnswer_dryRun_response {server : BonjourServer} {d reply : Bytes}
    (hr : response server d = some reply) (other : BonjourServer)
    {q : QuestionParser (Answer CountingStreamWriter)} (hq : dryRun other decodeName ⟨reply, 0⟩ = some q) :
    hasAnswer q = false := by
  obtain ⟨q', hq', -, ha⟩ := dryRun_spec other decodeName reply
  obtain rfl : q = q' := Option.some.inj (hq.symm.trans hq')
  obtain ⟨h, rest, rfl, hf⟩ := response_header hr
  simp [hasAnswer, ha, expected_of_flagsResponse other decodeName rest hf]

/-- No responder answers a reply. Whoever receives one, on whatever socket and in
    whatever state, either ignores it or takes its reader and lets it go at once; it
    asks for no send stream and keeps its state. -/
theorem dataReceived_response (server other : BonjourServer) {d reply : Bytes}
    (hr : response server d = some reply) (from_ : UdpSocket) :
    other.dataReceived ⟨reply, 0⟩ from_ = some (other, []) ∨
      other.dataReceived ⟨reply, 0⟩ from_ = some (other, [.accept reply, .release reply]) := by
  by_cases hign : getPort from_ ≠ mdnsPort ∨ other.waitingReader.isSome
  · exact .inl (BonjourServer.dataReceived_of_ignored _ hign)
  simp only [not_or, not_not, Option.not_isSome_iff_eq_none] at hign
  obtain ⟨q, hq, -, hdr⟩ := BonjourServer.dataReceived_of_accepted reply hign.1 hign.2
  have hsame : { other with waitingReader := none } = other := by
    cases other; simp_all
  right
  rw [hdr, hasAnswer_dryRun_response hr other hq, hsame]
  rfl

/-- The responder receives its own reply to an A query back over the multicast group, and
    lets it go. -/
theorem dataReceived_own_reply :
    response hostIdentity aQuery = some aReply ∧
    ((BonjourServer.dataReceived hostIdentity
        ⟨aReply, 0⟩
        (makeUdpSocket mdnsMulticastAddress mdnsPort) =
          some (hostIdentity, []) ∨
      BonjourServer.dataReceived hostIdentity
        ⟨aReply, 0⟩
        (makeUdpSocket mdnsMulticastAddress mdnsPort) =
          some (hostIdentity,
            [.accept aReply,
             .release aReply]))) := by
  have hr : response hostIdentity aQuery = some aReply := by decide
  exact ⟨hr, dataReceived_response _ _ hr _⟩

end Bonjour
