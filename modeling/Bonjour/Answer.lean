import Bonjour.Hostname

/-!
# The answer builder

`BonjourServer::Answer` (lines 62–199). An answer writes a provisional header when it is
made, then one resource record for every `Add*` operation that has something to write,
counting answers and additional records apart, and `Finish` overwrites the header in place
with the counts. It writes through any `infra::StreamWriter`: a counting writer in the dry
run, the granted buffer in the real pass. The `uint16_t` counters wrap.
-/

namespace Bonjour

-- ---------------------------------------------------------------------------
-- Writers
-- ---------------------------------------------------------------------------

/-- `infra::StreamWriter`: a byte sink with save markers and in-place overwrite. -/
class StreamWriter (W : Type) where
  insert : W → Bytes → W
  constructSaveMarker : W → Nat
  overwrite : W → Nat → Bytes → W
  insert_nil : ∀ w, insert w [] = w
  insert_append : ∀ w a b, insert (insert w a) b = insert w (a ++ b)

open StreamWriter

/-- `infra::CountingStreamWriter`: counts what is written and keeps nothing. -/
structure CountingStreamWriter where
  processed : Nat
  deriving DecidableEq, Repr

instance : StreamWriter CountingStreamWriter where
  insert w b := ⟨w.processed + b.length⟩
  constructSaveMarker w := w.processed
  overwrite w _ _ := w
  insert_nil _ := rfl
  insert_append w a b := by simp [Nat.add_assoc]

@[simp] theorem CountingStreamWriter.insert_processed (w : CountingStreamWriter) (b : Bytes) :
    (insert w b).processed = w.processed + b.length := rfl

/-- `OverwriteDataStream` on the bytes written since `marker`: `bytes` replace them
    from the front, and nothing is appended. -/
def overwriteFrom (buffer : Bytes) (marker : Nat) (bytes : Bytes) : Bytes :=
  buffer.take marker ++ bytes.take (buffer.length - marker) ++ buffer.drop (marker + bytes.length)

theorem overwriteFrom_length (buffer : Bytes) (marker : Nat) (bytes : Bytes) :
    (overwriteFrom buffer marker bytes).length = buffer.length := by
  simp only [overwriteFrom, List.length_append, List.length_take, List.length_drop]
  omega

private theorem take_append_take (x b : Bytes) (n : Nat) : (x.take n ++ b).take n = (x ++ b).take n := by
  rcases Nat.le_total x.length n with h | h
  · rw [List.take_of_length_le h]
  · rw [List.take_append_of_le_length (by simp [h]), List.take_append_of_le_length h, List.take_take,
      min_self]

/-- Overwriting the first bytes written since `marker` with as many keeps the rest. -/
theorem overwriteFrom_append (pre x y rest : Bytes) (h : x.length = y.length) :
    overwriteFrom (pre ++ (x ++ rest)) pre.length y = pre ++ (y ++ rest) := by
  have hd : (pre ++ (x ++ rest)).drop (pre.length + y.length) = rest := by
    rw [← h, ← List.length_append, ← List.append_assoc, List.drop_left]
  rw [overwriteFrom, List.take_left, hd, List.length_append, List.length_append,
    Nat.add_sub_cancel_left, List.take_of_length_le (by omega), List.append_assoc]

/-- Modelled from the spec: the send buffer a datagram exchange grants, of a fixed
    size (§4.3); what does not fit is dropped, a soft failure. -/
structure SendBuffer where
  written : Bytes
  size : Nat
  written_le : written.length ≤ size
  deriving DecidableEq

instance : StreamWriter SendBuffer where
  insert w b := ⟨(w.written ++ b).take w.size, w.size, List.length_take_le _ _⟩
  constructSaveMarker w := w.written.length
  overwrite w marker bytes :=
    ⟨overwriteFrom w.written marker bytes, w.size, (overwriteFrom_length _ _ _).trans_le w.written_le⟩
  insert_nil w := by cases w; simp [List.take_of_length_le, *]
  insert_append w a b := by
    simp only [SendBuffer.mk.injEq, take_append_take, List.append_assoc, and_true]

@[simp] theorem SendBuffer.insert_written (w : SendBuffer) (b : Bytes) :
    (insert w b).written = (w.written ++ b).take w.size := rfl

@[simp] theorem SendBuffer.overwrite_written (w : SendBuffer) (m : Nat) (b : Bytes) :
    (overwrite w m b).written = overwriteFrom w.written m b := rfl

-- ---------------------------------------------------------------------------
-- The responder and its answers
-- ---------------------------------------------------------------------------

/-- `BonjourServer`: the identity it advertises, fixed at construction, and the
    reader of the datagram it is answering. `instance` is a Lean keyword, so that
    member is `instanceName`. -/
structure BonjourServer where
  instanceName : Label
  serviceName : Label
  type : Label
  ipv4Address : Option IPv4Address
  ipv6Address : Option IPv6Address
  port : UInt16
  text : List Label
  waitingReader : Option Reader
  deriving DecidableEq

/-- The identity of the examples, `i.s.t.local`: no address, port 0 and no text. -/
def bareIdentity : BonjourServer := ⟨[105], [115], [116], none, none, 0, [], none⟩

/-- The identity `i.s.t.local` at `10.0.0.1`, port 80, with no text. -/
def hostIdentity : BonjourServer := ⟨[105], [115], [116], some ⟨[10, 0, 0, 1], rfl⟩, none, 80, [], none⟩

/-- The A query for `i.local`, with id 7. -/
def aQuery : Bytes := [0, 7, 0, 0, 0, 1, 0, 0, 0, 0, 0, 0, 1, 105, 5, 108, 111, 99, 97, 108, 0, 0, 1, 0, 1]

/-- The reply of `hostIdentity` to `aQuery`: the A record of `i.local`, `10.0.0.1`. -/
def aReply : Bytes :=
  [0, 7, 128, 0, 0, 0, 0, 1, 0, 0, 0, 0, 1, 105, 5, 108, 111, 99, 97, 108, 0, 0, 1, 0, 1, 0, 0, 0, 60,
    0, 4, 10, 0, 0, 1]

/-- `BonjourServer::Answer`: the reply being built, writing through `writer`. -/
structure Answer (W : Type) where
  queryId : UInt16
  writer : W
  startMarker : Nat
  answersCount : UInt16
  nameServersCount : UInt16
  additionalRecordsCount : UInt16

namespace Answer

variable {W : Type} [StreamWriter W] (server : BonjourServer)

/-- `stream << bytes`. -/
def write (a : Answer W) (bytes : Bytes) : Answer W := { a with writer := insert a.writer bytes }

@[simp] theorem write_write (a : Answer W) (x y : Bytes) : (a.write x).write y = a.write (x ++ y) := by
  simp [write, insert_append]

/-- The constructor: remember where the header starts, and write it with all
    counts zero. -/
def new (queryId : UInt16) (writer : W) : Answer W :=
  (⟨queryId, writer, constructSaveMarker writer, 0, 0, 0⟩ : Answer W).write
    (DnsRecordHeader.toBytes ⟨queryId, DnsRecordHeader.flagsResponse, 0, 0, 0, 0⟩)

/-- `AddA`: an A record for `dnsHostname` carrying the IPv4 address, which the
    callers have checked is configured. -/
def addA (address : IPv4Address) (a : Answer W) (dnsHostname : List Label) : Answer W :=
  let payload : DnsRecordPayload := ⟨DnsType.dnsTypeA.enumCast, dnsClassIn, 60, 4⟩
  ((a.write (encodeName dnsHostname)).write payload.toBytes).write address.bytes

/-- `AddAaaa`: an AAAA record for `dnsHostname` carrying the IPv6 address. -/
def addAaaa (address : IPv6Address) (a : Answer W) (dnsHostname : List Label) : Answer W :=
  let payload : DnsRecordPayload := ⟨DnsType.dnsTypeAAAA.enumCast, dnsClassIn, 60, 16⟩
  ((a.write (encodeName dnsHostname)).write payload.toBytes).write address.bytes

/-- `AddPtr`: a PTR record for `dnsHostname` pointing at the full instance name. -/
def addPtr (a : Answer W) (dnsHostname : List Label) : Answer W :=
  let instanceParts := [server.instanceName, server.serviceName, server.type, localLabel]
  let payload : DnsRecordPayload :=
    ⟨DnsType.dnsTypePtr.enumCast, dnsClassIn, 60, UInt16.ofNat (streamedSize instanceParts)⟩
  ((a.write (encodeName dnsHostname)).write payload.toBytes).write (encodeName instanceParts)

/-- `AddSrv`: an SRV record for `dnsHostname`, priority and weight zero, the
    configured port, and the short instance name as target. -/
def addSrv (a : Answer W) (dnsHostname : List Label) : Answer W :=
  let instanceParts := [server.instanceName, localLabel]
  let payload : DnsRecordPayload :=
    ⟨DnsType.dnsTypeSrv.enumCast, dnsClassIn, 60, UInt16.ofNat (streamedSize instanceParts + 6)⟩
  (((((a.write (encodeName dnsHostname)).write payload.toBytes).write (be16 0)).write
    (be16 0)).write (be16 server.port)).write (encodeName instanceParts)

/-- `AddTxt`: a TXT record for `dnsHostname` with the configured text parts,
    without their terminator. -/
def addTxt (a : Answer W) (dnsHostname : List Label) : Answer W :=
  let payload : DnsRecordPayload :=
    ⟨DnsType.dnsTypeTxt.enumCast, dnsClassIn, 60, UInt16.ofNat (streamedSize server.text - 1)⟩
  ((a.write (encodeName dnsHostname)).write payload.toBytes).write (encodeParts server.text)

/-- The short instance name, `instance.local`. -/
def shortName : List Label := [server.instanceName, localLabel]

/-- The full instance name, `instance.serviceName.type.local`. -/
def fullName : List Label := [server.instanceName, server.serviceName, server.type, localLabel]

/-- The service name, `serviceName.type.local`. -/
def serviceNameParts : List Label := [server.serviceName, server.type, localLabel]

/-- `++answersCount`. -/
def countAnswer (a : Answer W) : Answer W := { a with answersCount := a.answersCount + 1 }

/-- `++additionalRecordsCount`. -/
def countAdditional (a : Answer W) : Answer W :=
  { a with additionalRecordsCount := a.additionalRecordsCount + 1 }

/-- `AddAAnswer`. -/
def addAAnswer (a : Answer W) : Answer W :=
  match server.ipv4Address with
  | some address => addA address a.countAnswer (shortName server)
  | none => a

/-- `AddAaaaAnswer`. -/
def addAaaaAnswer (a : Answer W) : Answer W :=
  match server.ipv6Address with
  | some address => addAaaa address a.countAnswer (shortName server)
  | none => a

/-- `AddPtrAnswer`. -/
def addPtrAnswer (a : Answer W) : Answer W := addPtr server a.countAnswer (serviceNameParts server)

/-- `AddSrvAnswer`. -/
def addSrvAnswer (a : Answer W) : Answer W := addSrv server a.countAnswer (fullName server)

/-- `AddTxtAnswer`. -/
def addTxtAnswer (a : Answer W) : Answer W := addTxt server a.countAnswer (fullName server)

/-- `AddAAdditional`. -/
def addAAdditional (a : Answer W) : Answer W :=
  match server.ipv4Address with
  | some address => addA address a.countAdditional (shortName server)
  | none => a

/-- `AddAaaaAdditional`. -/
def addAaaaAdditional (a : Answer W) : Answer W :=
  match server.ipv6Address with
  | some address => addAaaa address a.countAdditional (shortName server)
  | none => a

/-- `AddSrvAdditional`. -/
def addSrvAdditional (a : Answer W) : Answer W := addSrv server a.countAdditional (fullName server)

/-- `AddTxtAdditional`. -/
def addTxtAdditional (a : Answer W) : Answer W := addTxt server a.countAdditional (fullName server)

/-- `Finish`: overwrite the header at the start marker with the counts. -/
def finish (a : Answer W) : Answer W :=
  { a with writer := overwrite a.writer a.startMarker (DnsRecordHeader.toBytes
      ⟨a.queryId, DnsRecordHeader.flagsResponse, 0, a.answersCount, a.nameServersCount,
        a.additionalRecordsCount⟩) }

-- ---------------------------------------------------------------------------
-- What each operation writes
-- ---------------------------------------------------------------------------

/-- The `Add*` member functions the question parser calls. -/
inductive Op
  | addAAnswer
  | addAaaaAnswer
  | addPtrAnswer
  | addSrvAnswer
  | addTxtAnswer
  | addAAdditional
  | addAaaaAdditional
  | addSrvAdditional
  | addTxtAdditional
  deriving DecidableEq, Repr

/-- Call the member function an operation names. -/
def perform (op : Op) (a : Answer W) : Answer W :=
  match op with
  | .addAAnswer => addAAnswer server a
  | .addAaaaAnswer => addAaaaAnswer server a
  | .addPtrAnswer => addPtrAnswer server a
  | .addSrvAnswer => addSrvAnswer server a
  | .addTxtAnswer => addTxtAnswer server a
  | .addAAdditional => addAAdditional server a
  | .addAaaaAdditional => addAaaaAdditional server a
  | .addSrvAdditional => addSrvAdditional server a
  | .addTxtAdditional => addTxtAdditional server a

/-- Whether an operation counts in the answer section rather than the additional one. -/
def Op.isAnswer : Op → Bool
  | .addAAnswer | .addAaaaAnswer | .addPtrAnswer | .addSrvAnswer | .addTxtAnswer => true
  | _ => false

/-- The record type an operation writes. -/
def Op.recordType : Op → DnsType
  | .addAAnswer | .addAAdditional => .dnsTypeA
  | .addAaaaAnswer | .addAaaaAdditional => .dnsTypeAAAA
  | .addPtrAnswer => .dnsTypePtr
  | .addSrvAnswer | .addSrvAdditional => .dnsTypeSrv
  | .addTxtAnswer | .addTxtAdditional => .dnsTypeTxt

/-- The owner name of the records of a type. -/
def ownerName : DnsType → List Label
  | .dnsTypeA | .dnsTypeAAAA => shortName server
  | .dnsTypePtr => serviceNameParts server
  | .dnsTypeSrv | .dnsTypeTxt => fullName server

/-- The bytes after the payload of a record of a type: the address, the target
    name, the SRV fields or the text. `none` for an address that is not configured. -/
def rdata : DnsType → Option Bytes
  | .dnsTypeA => server.ipv4Address.map (·.bytes)
  | .dnsTypeAAAA => server.ipv6Address.map (·.bytes)
  | .dnsTypePtr => some (encodeName (fullName server))
  | .dnsTypeSrv => some (be16 0 ++ be16 0 ++ be16 server.port ++ encodeName (shortName server))
  | .dnsTypeTxt => some (encodeParts server.text)

/-- The payload the code computes for a record of a type. -/
def payload : DnsType → DnsRecordPayload
  | .dnsTypeA => ⟨DnsType.dnsTypeA.enumCast, dnsClassIn, 60, 4⟩
  | .dnsTypeAAAA => ⟨DnsType.dnsTypeAAAA.enumCast, dnsClassIn, 60, 16⟩
  | .dnsTypePtr =>
    ⟨DnsType.dnsTypePtr.enumCast, dnsClassIn, 60, UInt16.ofNat (streamedSize (fullName server))⟩
  | .dnsTypeSrv =>
    ⟨DnsType.dnsTypeSrv.enumCast, dnsClassIn, 60, UInt16.ofNat (streamedSize (shortName server) + 6)⟩
  | .dnsTypeTxt =>
    ⟨DnsType.dnsTypeTxt.enumCast, dnsClassIn, 60, UInt16.ofNat (streamedSize server.text - 1)⟩

/-- The record an operation writes, `none` when it writes nothing. -/
def record (op : Op) : Option Bytes :=
  (rdata server op.recordType).map fun data =>
    encodeName (ownerName server op.recordType) ++ (payload server op.recordType).toBytes ++ data

/-- Spec of one operation: it writes its record, if any, and counts it in its section. -/
theorem perform_eq (op : Op) (a : Answer W) :
    perform server op a = match record server op with
      | some r => (if op.isAnswer then a.countAnswer else a.countAdditional).write r
      | none => a := by
  cases op <;>
  simp only [perform, addAAnswer, addAaaaAnswer, addPtrAnswer, addSrvAnswer, addTxtAnswer,
    addAAdditional, addAaaaAdditional, addSrvAdditional, addTxtAdditional, record, rdata,
    Op.recordType, Op.isAnswer, ownerName, payload, addA, addAaaa, addPtr, addSrv, addTxt,
    write_write, List.append_assoc, Option.map_some', Option.map_none', if_true,
    Bool.false_eq_true, if_false, fullName, shortName, serviceNameParts]
  all_goals cases server.ipv4Address <;> cases server.ipv6Address <;> rfl

/-- The records a list of operations writes, in order. -/
def records (ops : List Op) : Bytes := (ops.filterMap (record server)).flatten

/-- How many of the operations write a record in the answer section. -/
def answerCount (ops : List Op) : Nat :=
  (ops.filter fun op => op.isAnswer && (record server op).isSome).length

/-- How many of the operations write a record in the additional section. -/
def additionalCount (ops : List Op) : Nat :=
  (ops.filter fun op => !op.isAnswer && (record server op).isSome).length

theorem answerCount_append (xs ys : List Op) :
    answerCount server (xs ++ ys) = answerCount server xs + answerCount server ys := by
  simp [answerCount, List.filter_append]

theorem additionalCount_append (xs ys : List Op) :
    additionalCount server (xs ++ ys) = additionalCount server xs + additionalCount server ys := by
  simp [additionalCount, List.filter_append]

/-- Every record written counts in exactly one of the two sections. -/
theorem answerCount_add_additionalCount (ops : List Op) :
    answerCount server ops + additionalCount server ops = (ops.filterMap (record server)).length := by
  induction ops with
  | nil => rfl
  | cons op ops ih =>
    have hop : answerCount server [op] + additionalCount server [op] =
        ([op].filterMap (record server)).length := by
      simp only [answerCount, additionalCount, List.filter_cons, List.filter_nil, List.filterMap_cons,
        List.filterMap_nil]
      cases record server op <;> cases op.isAnswer <;> rfl
    rw [← List.singleton_append, answerCount_append, additionalCount_append, List.filterMap_append,
      List.length_append, ← ih, ← hop]
    omega

theorem answerCount_eq_zero {ops : List Op} (h : ∀ op ∈ ops, op.isAnswer = false) :
    answerCount server ops = 0 :=
  List.length_eq_zero.mpr (List.filter_eq_nil_iff.mpr fun op hop => by simp [h op hop])

theorem additionalCount_eq_zero {ops : List Op} (h : ∀ op ∈ ops, op.isAnswer = true) :
    additionalCount server ops = 0 :=
  List.length_eq_zero.mpr (List.filter_eq_nil_iff.mpr fun op hop => by simp [h op hop])

private theorem ofNat_succ (x : UInt16) (n : Nat) :
    x + 1 + UInt16.ofNat n = x + UInt16.ofNat (n + 1) := by
  apply UInt16.toNat.inj; have := UInt16.toNat_lt' x; simp; omega

/-- Spec of a run of operations: the records in order, and the counts. -/
theorem foldl_perform (ops : List Op) (a : Answer W) :
    ops.foldl (fun a op => perform server op a) a =
      { a with writer := insert a.writer (records server ops),
               answersCount := a.answersCount + UInt16.ofNat (answerCount server ops),
               additionalRecordsCount :=
                 a.additionalRecordsCount + UInt16.ofNat (additionalCount server ops) } := by
  induction ops generalizing a with
  | nil => cases a; simp [records, answerCount, additionalCount, insert_nil]
  | cons op ops ih =>
    rw [List.foldl_cons, ih, perform_eq]
    cases hr : record server op <;> cases hop : op.isAnswer <;>
      simp [records, answerCount, additionalCount, hr, hop, write, countAnswer, countAdditional,
        insert_append, ofNat_succ]

-- ---------------------------------------------------------------------------
-- Records and replies
-- ---------------------------------------------------------------------------

/-- `result` is `a` after writing one record for `dnsHostname`: the name, a payload
    of `type`, class IN and TTL 60 whose rdlength counts the bytes that follow it,
    and those bytes, `data`. -/
def WritesRecord (a result : Answer W) (dnsHostname : List Label) (type : DnsType)
    (data : Bytes) : Prop :=
  ∃ p : DnsRecordPayload, p.type = type.enumCast ∧ p.class_ = dnsClassIn ∧ p.ttl = 60 ∧
    p.rdLength.toNat = data.length ∧ result = a.write (encodeName dnsHostname ++ p.toBytes ++ data)

/-- Every record writer puts in the payload the length of what it writes after it:
    4 address bytes for A, 16 for AAAA, the full instance name for PTR, the SRV
    fields and the short instance name for SRV, and the text parts for TXT. -/
theorem record_rdLength_eq_length
    (hfull : (encodeName (fullName server)).length ≤ 65529)
    (hshort : (encodeName (shortName server)).length ≤ 65529)
    (htext : (encodeParts server.text).length ≤ 65529)
    (a : Answer W) (dnsHostname : List Label) (v4 : IPv4Address) (v6 : IPv6Address) :
    WritesRecord a (addA v4 a dnsHostname) dnsHostname .dnsTypeA v4.bytes ∧
    WritesRecord a (addAaaa v6 a dnsHostname) dnsHostname .dnsTypeAAAA v6.bytes ∧
    WritesRecord a (addPtr server a dnsHostname) dnsHostname .dnsTypePtr
      (encodeName (fullName server)) ∧
    WritesRecord a (addSrv server a dnsHostname) dnsHostname .dnsTypeSrv
      (be16 0 ++ be16 0 ++ be16 server.port ++ encodeName (shortName server)) ∧
    WritesRecord a (addTxt server a dnsHostname) dnsHostname .dnsTypeTxt
      (encodeParts server.text) := by
  rw [encodeName_length] at hfull hshort
  have htext' := encodeParts_length server.text
  refine ⟨⟨payload server .dnsTypeA, rfl, rfl, rfl, ?_, by simp [addA, payload]⟩,
    ⟨payload server .dnsTypeAAAA, rfl, rfl, rfl, ?_, by simp [addAaaa, payload]⟩,
    ⟨payload server .dnsTypePtr, rfl, rfl, rfl, ?_, by simp [addPtr, payload, fullName]⟩,
    ⟨payload server .dnsTypeSrv, rfl, rfl, rfl, ?_, by simp [addSrv, payload, shortName]⟩,
    ⟨payload server .dnsTypeTxt, rfl, rfl, rfl, ?_, by simp [addTxt, payload]⟩⟩
  · simp [payload, v4.length_eq]
  · simp [payload, v6.length_eq]
  · simp only [payload, UInt16.toNat_ofNat', encodeName_length]; omega
  · simp only [payload, UInt16.toNat_ofNat', List.length_append, be16_length, encodeName_length]
    omega
  · simp only [payload, UInt16.toNat_ofNat']; omega

theorem record_rdLength_eq_length_one_letter_names :
    (encodeName (fullName bareIdentity)).length ≤ 65529 ∧
    (encodeName (shortName bareIdentity)).length ≤ 65529 ∧
    (encodeParts bareIdentity.text).length ≤ 65529 ∧
    WritesRecord (new 0 (⟨0⟩ : CountingStreamWriter))
      (addA mdnsMulticastAddress (new 0 ⟨0⟩) [])
      [] .dnsTypeA mdnsMulticastAddress.bytes ∧
    WritesRecord (new 0 (⟨0⟩ : CountingStreamWriter))
      (addAaaa ⟨List.replicate 16 0, rfl⟩ (new 0 ⟨0⟩) [])
      [] .dnsTypeAAAA (List.replicate 16 0) ∧
    WritesRecord (new 0 (⟨0⟩ : CountingStreamWriter))
      (addPtr bareIdentity (new 0 ⟨0⟩) [])
      [] .dnsTypePtr (encodeName (fullName bareIdentity)) ∧
    WritesRecord (new 0 (⟨0⟩ : CountingStreamWriter))
      (addSrv bareIdentity (new 0 ⟨0⟩) [])
      [] .dnsTypeSrv
      (be16 0 ++ be16 0 ++ be16 0 ++ encodeName (shortName bareIdentity)) ∧
    WritesRecord (new 0 (⟨0⟩ : CountingStreamWriter))
      (addTxt bareIdentity (new 0 ⟨0⟩) [])
      [] .dnsTypeTxt (encodeParts []) := by
  have hfull : (encodeName (fullName bareIdentity)).length ≤ 65529 := by decide
  have hshort : (encodeName (shortName bareIdentity)).length ≤ 65529 := by decide
  have htext : (encodeParts bareIdentity.text).length ≤ 65529 := by
    decide
  exact ⟨hfull, hshort, htext,
    record_rdLength_eq_length bareIdentity hfull hshort htext
    (new 0 (⟨0⟩ : CountingStreamWriter)) [] mdnsMulticastAddress ⟨List.replicate 16 0, rfl⟩⟩

/-- With room for them, a fresh answer and a run of operations leave in the buffer
    what it held, the provisional header and the records. -/
theorem written_foldl_new (queryId : UInt16) (ops : List Op) (w : SendBuffer)
    (hroom : w.written.length + 12 + (records server ops).length ≤ w.size) :
    (ops.foldl (fun a op => perform server op a) (new queryId w)).writer.written =
      w.written ++ DnsRecordHeader.toBytes ⟨queryId, DnsRecordHeader.flagsResponse, 0, 0, 0, 0⟩ ++
        records server ops := by
  simp only [foldl_perform, new, write, insert_append, SendBuffer.insert_written]
  rw [List.take_of_length_le (by simpa [Nat.add_assoc] using hroom), List.append_assoc]

/-- `Finish` overwrites the twelve bytes at the start marker with the header, and
    leaves the rest of the buffer and its length as they were. -/
theorem finish_written (a : Answer SendBuffer) (h : a.startMarker + 12 ≤ a.writer.written.length) :
    a.finish.writer.written = a.writer.written.take a.startMarker ++
      DnsRecordHeader.toBytes ⟨a.queryId, DnsRecordHeader.flagsResponse, 0, a.answersCount,
        a.nameServersCount, a.additionalRecordsCount⟩ ++
      a.writer.written.drop (a.startMarker + 12) := by
  simp only [finish, SendBuffer.overwrite_written, overwriteFrom, DnsRecordHeader.toBytes_length]
  congr 2
  exact List.take_of_length_le (by simp; omega)

/-- A reply built from a fresh answer by any run of operations and `Finish`: after
    what the buffer held, a header with the query id, the response flag, zero
    questions and name servers and the two counts, then the records in order. -/
theorem finish_foldl_new (queryId : UInt16) (ops : List Op) (w : SendBuffer)
    (hroom : w.written.length + 12 + (records server ops).length ≤ w.size)
    (hanswers : answerCount server ops ≤ 65535) (hadditional : additionalCount server ops ≤ 65535) :
    ∃ h : DnsRecordHeader,
      (finish (ops.foldl (fun a op => perform server op a) (new queryId w))).writer.written =
        w.written ++ h.toBytes ++ records server ops ∧
      h.id = queryId ∧ h.flags = DnsRecordHeader.flagsResponse ∧ h.questionsCount = 0 ∧
      h.nameServersCount = 0 ∧ h.answersCount.toNat = answerCount server ops ∧
      h.additionalRecordsCount.toNat = additionalCount server ops := by
  refine ⟨⟨queryId, DnsRecordHeader.flagsResponse, 0, 0 + UInt16.ofNat (answerCount server ops), 0,
    0 + UInt16.ofNat (additionalCount server ops)⟩, ?_, rfl, rfl, rfl, rfl, by simp; omega,
    by simp; omega⟩
  have hw := written_foldl_new server queryId ops w hroom
  rw [finish_written _ (by rw [hw]; simp [foldl_perform, new, write, constructSaveMarker]), hw]
  simp only [foldl_perform, new, write, constructSaveMarker]
  rw [List.take_append_of_le_length (by simp), List.take_left, List.drop_left' (by simp)]

theorem finish_foldl_new_one_ptr :
    ([] : Bytes).length + 12 + (records bareIdentity [.addPtrAnswer]).length ≤ 100 ∧
    answerCount bareIdentity [.addPtrAnswer] ≤ 65535 ∧
    additionalCount bareIdentity [.addPtrAnswer] ≤ 65535 ∧
    ∃ h : DnsRecordHeader,
      (finish ([Op.addPtrAnswer].foldl (fun a op => perform bareIdentity op a)
        (new 0 (⟨[], 100, Nat.zero_le _⟩ : SendBuffer)))).writer.written =
        ([] : Bytes) ++ h.toBytes ++ records bareIdentity [.addPtrAnswer] ∧
      h.id = 0 ∧ h.flags = DnsRecordHeader.flagsResponse ∧ h.questionsCount = 0 ∧
      h.nameServersCount = 0 ∧
      h.answersCount.toNat = answerCount bareIdentity [.addPtrAnswer] ∧
      h.additionalRecordsCount.toNat = additionalCount bareIdentity [.addPtrAnswer] := by
  have hroom :
      ([] : Bytes).length + 12 + (records bareIdentity [.addPtrAnswer]).length ≤ 100 := by
    decide
  have hanswers : answerCount bareIdentity [.addPtrAnswer] ≤ 65535 := by decide
  have hadditional : additionalCount bareIdentity [.addPtrAnswer] ≤ 65535 := by decide
  exact ⟨hroom, hanswers, hadditional,
    finish_foldl_new bareIdentity 0 [.addPtrAnswer] ⟨[], 100, Nat.zero_le _⟩
      hroom hanswers hadditional⟩

end Answer

end Bonjour
