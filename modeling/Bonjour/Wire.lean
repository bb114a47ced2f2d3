import Mathlib

/-!
# Wire format

The fixed-layout parts of a DNS message as the responder reads and writes them.
`services/network/Dns.hpp` is not among the sources: the field layout, the type and class
codes and the flag masks follow the spec (§3, §6). Every multi-byte field is big-endian.
The datagram reader is a byte list with a read offset.
-/

namespace Bonjour

/-- A byte sequence: a datagram, a label, or what a stream writes. -/
abbrev Bytes := List UInt8

-- ---------------------------------------------------------------------------
-- Big-endian fields
-- ---------------------------------------------------------------------------

/-- `infra::BigEndian<uint16_t>` as it is laid out in memory. -/
def be16 (v : UInt16) : Bytes :=
  [UInt8.ofNat (v.toNat / 256), UInt8.ofNat v.toNat]

/-- `infra::BigEndian<uint32_t>` as it is laid out in memory. -/
def be32 (v : UInt32) : Bytes :=
  [UInt8.ofNat (v.toNat / 2 ^ 24), UInt8.ofNat (v.toNat / 2 ^ 16),
    UInt8.ofNat (v.toNat / 2 ^ 8), UInt8.ofNat v.toNat]

/-- The value of a big-endian 16-bit field read from the front of `b`. -/
def ofBe16 : Bytes → UInt16
  | hi :: lo :: _ => UInt16.ofNat (hi.toNat * 256 + lo.toNat)
  | _ => 0

@[simp] theorem be16_length (v : UInt16) : (be16 v).length = 2 := rfl
@[simp] theorem be32_length (v : UInt32) : (be32 v).length = 4 := rfl

@[simp] theorem UInt8.toNat_ofNat' (n : Nat) : (UInt8.ofNat n).toNat = n % 256 := by
  simp [UInt8.ofNat, UInt8.toNat]

@[simp] theorem UInt16.toNat_ofNat' (n : Nat) : (UInt16.ofNat n).toNat = n % 65536 := by
  simp [UInt16.ofNat, UInt16.toNat]

@[simp] theorem UInt32.toNat_ofNat' (n : Nat) : (UInt32.ofNat n).toNat = n % 2 ^ 32 := by
  simp [UInt32.ofNat, UInt32.toNat]

theorem UInt16.toNat_lt' (x : UInt16) : x.toNat < 65536 := x.toNat_lt_size

@[simp] theorem UInt16.toNat_add' (a b : UInt16) : (a + b).toNat = (a.toNat + b.toNat) % 65536 :=
  UInt16.toNat_add a b

/-- A field reads back as the value written. -/
@[simp] theorem ofBe16_be16 (v : UInt16) (post : Bytes) : ofBe16 (be16 v ++ post) = v := by
  have hv : v.toNat < 65536 := v.toNat_lt_size
  apply UInt16.toNat.inj
  simp only [be16, List.cons_append, ofBe16, UInt8.toNat_ofNat', UInt16.toNat_ofNat']
  omega

/-- The value of a big-endian 32-bit field read from the front of `b`. -/
def ofBe32 : Bytes → UInt32
  | b₀ :: b₁ :: b₂ :: b₃ :: _ =>
    UInt32.ofNat (((b₀.toNat * 256 + b₁.toNat) * 256 + b₂.toNat) * 256 + b₃.toNat)
  | _ => 0

@[simp] theorem ofBe32_be32 (v : UInt32) (post : Bytes) : ofBe32 (be32 v ++ post) = v := by
  have hv : v.toNat < 2 ^ 32 := v.toNat_lt_size
  apply UInt32.toNat.inj
  simp only [be32, List.cons_append, ofBe32, UInt8.toNat_ofNat', UInt32.toNat_ofNat']
  omega

/-- A field reads only its two bytes. -/
theorem ofBe16_take (b : Bytes) (n : Nat) (h : 2 ≤ n) : ofBe16 (b.take n) = ofBe16 b := by
  obtain ⟨n, rfl⟩ : ∃ m, n = m + 2 := ⟨n - 2, by omega⟩
  match b with
  | [] | [_] => rfl
  | _ :: _ :: _ => rfl

-- ---------------------------------------------------------------------------
-- Header, question footer and record payload
-- ---------------------------------------------------------------------------

/-- `DnsRecordHeader`: the 12-byte header that opens every DNS message. -/
structure DnsRecordHeader where
  id : UInt16
  flags : UInt16
  questionsCount : UInt16
  answersCount : UInt16
  nameServersCount : UInt16
  additionalRecordsCount : UInt16
  deriving DecidableEq, Repr

namespace DnsRecordHeader

/-- The response (QR) bit. -/
def flagsResponse : UInt16 := 0x8000
/-- The QR bit of a query. -/
def flagsQuery : UInt16 := 0
/-- The four opcode bits. -/
def flagsOpcodeMask : UInt16 := 0x7800
/-- Opcode `QUERY`. -/
def flagsOpcodeQuery : UInt16 := 0

/-- The header in network order. -/
def toBytes (h : DnsRecordHeader) : Bytes :=
  be16 h.id ++ be16 h.flags ++ be16 h.questionsCount ++ be16 h.answersCount ++
    be16 h.nameServersCount ++ be16 h.additionalRecordsCount

/-- The header whose bytes start `b`. -/
def ofBytes (b : Bytes) : DnsRecordHeader :=
  ⟨ofBe16 b, ofBe16 (b.drop 2), ofBe16 (b.drop 4), ofBe16 (b.drop 6), ofBe16 (b.drop 8),
    ofBe16 (b.drop 10)⟩

/-- A header reads only its twelve bytes. -/
theorem ofBytes_take (b : Bytes) : ofBytes (b.take 12) = ofBytes b := by
  simp only [ofBytes, List.drop_take]
  congr 1 <;> exact ofBe16_take _ _ (by decide)

@[simp] theorem toBytes_length (h : DnsRecordHeader) : h.toBytes.length = 12 := by
  simp [toBytes]

/-- Reading a header back from its bytes gives the header, whatever follows it. -/
theorem ofBytes_toBytes (h : DnsRecordHeader) (rest : Bytes) : ofBytes (h.toBytes ++ rest) = h := by
  simp [ofBytes, toBytes, List.drop_append_eq_append_drop, List.drop_eq_nil_of_le]

end DnsRecordHeader

/-- `DnsQuestionFooter`: the type and class that follow a question's name. -/
structure DnsQuestionFooter where
  type : UInt16
  class_ : UInt16
  deriving DecidableEq, Repr

/-- The footer whose bytes start `b`. -/
def DnsQuestionFooter.ofBytes (b : Bytes) : DnsQuestionFooter :=
  ⟨ofBe16 b, ofBe16 (b.drop 2)⟩

/-- The footer in network order. -/
def DnsQuestionFooter.toBytes (f : DnsQuestionFooter) : Bytes :=
  be16 f.type ++ be16 f.class_

/-- A footer reads only its four bytes. -/
theorem DnsQuestionFooter.ofBytes_take (b : Bytes) : ofBytes (b.take 4) = ofBytes b := by
  simp only [ofBytes, List.drop_take]
  congr 1 <;> exact ofBe16_take _ _ (by decide)

@[simp] theorem DnsQuestionFooter.toBytes_length (f : DnsQuestionFooter) : f.toBytes.length = 4 := rfl

theorem DnsQuestionFooter.ofBytes_toBytes (f : DnsQuestionFooter) (rest : Bytes) :
    ofBytes (f.toBytes ++ rest) = f := by
  simp [ofBytes, toBytes, List.drop_append_eq_append_drop, List.drop_eq_nil_of_le]

/-- `DnsRecordPayload`: the fixed part of a resource record after its owner name. -/
structure DnsRecordPayload where
  type : UInt16
  class_ : UInt16
  ttl : UInt32
  rdLength : UInt16
  deriving DecidableEq, Repr

/-- The payload in network order. -/
def DnsRecordPayload.toBytes (p : DnsRecordPayload) : Bytes :=
  be16 p.type ++ be16 p.class_ ++ be32 p.ttl ++ be16 p.rdLength

@[simp] theorem DnsRecordPayload.toBytes_length (p : DnsRecordPayload) : p.toBytes.length = 10 := rfl

/-- The payload whose bytes start `b`. -/
def DnsRecordPayload.ofBytes (b : Bytes) : DnsRecordPayload :=
  ⟨ofBe16 b, ofBe16 (b.drop 2), ofBe32 (b.drop 4), ofBe16 (b.drop 8)⟩

theorem DnsRecordPayload.ofBytes_toBytes (p : DnsRecordPayload) (rest : Bytes) :
    ofBytes (p.toBytes ++ rest) = p := by
  simp [ofBytes, toBytes, List.drop_append_eq_append_drop, List.drop_eq_nil_of_le]

/-- `DnsType`, the record types the responder knows. -/
inductive DnsType
  | dnsTypeA
  | dnsTypeAAAA
  | dnsTypePtr
  | dnsTypeSrv
  | dnsTypeTxt
  deriving DecidableEq, Repr

/-- `infra::enum_cast` of a `DnsType`: its code on the wire. -/
def DnsType.enumCast : DnsType → UInt16
  | .dnsTypeA => 1
  | .dnsTypeAAAA => 28
  | .dnsTypePtr => 12
  | .dnsTypeSrv => 33
  | .dnsTypeTxt => 16

/-- The `DnsType` case a `switch` over `static_cast<DnsType>(v)` takes, if any. -/
def DnsType.ofValue? (v : UInt16) : Option DnsType :=
  [DnsType.dnsTypeA, .dnsTypeAAAA, .dnsTypePtr, .dnsTypeSrv, .dnsTypeTxt].find? (·.enumCast = v)

@[simp] theorem DnsType.ofValue?_enumCast (t : DnsType) : ofValue? t.enumCast = some t := by
  cases t <;> rfl

@[simp] theorem DnsType.enumCast_inj {t t' : DnsType} : t.enumCast = t'.enumCast ↔ t = t' :=
  ⟨fun h => by simpa using congrArg ofValue? h, fun h => h ▸ rfl⟩

/-- `DnsClass::dnsClassIn`, the Internet class. -/
def dnsClassIn : UInt16 := 1

-- ---------------------------------------------------------------------------
-- Addresses and sockets
-- ---------------------------------------------------------------------------

/-- `IPv4Address`: four address bytes. -/
structure IPv4Address where
  bytes : Bytes
  length_eq : bytes.length = 4
  deriving DecidableEq

/-- `IPv6Address` as it is laid out in memory: sixteen bytes. -/
structure IPv6Address where
  bytes : Bytes
  length_eq : bytes.length = 16
  deriving DecidableEq

/-- `IPAddress`: either version. -/
inductive IPAddress
  | ipv4 (address : IPv4Address)
  | ipv6 (address : IPv6Address)
  deriving DecidableEq

/-- `UdpSocket`: an address and a port. -/
structure UdpSocket where
  address : IPAddress
  port : UInt16
  deriving DecidableEq

/-- `GetPort`. -/
def getPort (socket : UdpSocket) : UInt16 := socket.port

/-- `MakeUdpSocket` for an IPv4 address. -/
def makeUdpSocket (address : IPv4Address) (port : UInt16) : UdpSocket := ⟨.ipv4 address, port⟩

/-- The well-known mDNS port. -/
def mdnsPort : UInt16 := 5353

/-- The IPv4 mDNS group `224.0.0.251`. -/
def mdnsMulticastAddress : IPv4Address := ⟨[224, 0, 0, 251], rfl⟩

-- ---------------------------------------------------------------------------
-- The datagram reader
-- ---------------------------------------------------------------------------

/-- `infra::StreamReaderWithRewinding` over a received datagram. -/
structure Reader where
  data : Bytes
  offset : Nat
  deriving DecidableEq, Repr

/-- `ConstructSaveMarker`: the current offset. -/
def Reader.constructSaveMarker (r : Reader) : Nat := r.offset

/-- `Rewind`: go back to a marker. -/
def Reader.rewind (r : Reader) (marker : Nat) : Reader := { r with offset := marker }

/-- The `n` bytes at the read offset, when that many remain. -/
def Reader.peek (r : Reader) (n : Nat) : Option Bytes :=
  if r.offset + n ≤ r.data.length then some ((r.data.drop r.offset).take n) else none

theorem Reader.rewind_eq (r : Reader) (m : Nat) : r.rewind m = ⟨r.data, m⟩ := rfl

@[simp] theorem Reader.rewind_data (r : Reader) (m : Nat) : (r.rewind m).data = r.data := rfl
@[simp] theorem Reader.rewind_offset (r : Reader) (m : Nat) : (r.rewind m).offset = m := rfl

end Bonjour
