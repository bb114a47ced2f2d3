import Bonjour.Passes

/-!
# The responder

`BonjourServer::DataReceived` and `BonjourServer::SendStreamAvailable` (lines 37–60), and
the exchange they run with the datagram transport (§4.5, §5). Each returns the server
afterwards and what it did that the transport sees: taking a reader, asking for a send
stream, writing a reply into a granted buffer, and letting a reader go. The transport
delivers any datagram at any time and grants a buffer only for a pending request.
-/

namespace Bonjour

open QuestionParser

/-- What the responder does that its environment sees. A reader is named by its
    datagram. -/
inductive Action
  | accept (data : Bytes)
  | release (data : Bytes)
  | requestSendStream (size : Nat) (destination : UdpSocket)
  | answer (data : Bytes) (reply : Bytes)

/-- Whether an action asks for a send stream. -/
def Action.isRequest : Action → Bool
  | .requestSendStream _ _ => true
  | _ => false

/-- The bytes in the granted buffer after the real pass. The model keeps the buffer
    in the answer, so a real pass that drops its answer leaves it as granted; that
    never happens after a dry run with an answer (`dryRun_realPass_agree`). -/
def QuestionParser.reply (p : QuestionParser (Answer SendBuffer)) (writer : SendBuffer) : Bytes :=
  match p.answer with
  | some a => a.writer.written
  | none => writer.written

/-- The reply §4.4 asks for to the datagram `d`, when it has one: the header with the
    query id, the response flag and the two counts, then the planned records. -/
def response (server : BonjourServer) (d : Bytes) : Option Bytes :=
  (expected server decodeName d).map fun (queryId, ops) =>
    DnsRecordHeader.toBytes ⟨queryId, DnsRecordHeader.flagsResponse, 0,
      UInt16.ofNat (Answer.answerCount server ops), 0, UInt16.ofNat (Answer.additionalCount server ops)⟩ ++
    Answer.records server ops

/-- In an empty buffer of the size the dry run asked for, the real pass writes the
    reply `response` asks for, and nothing when there is none. -/
theorem realPass_reply (server : BonjourServer) (d : Bytes) (writer : SendBuffer)
    (hfresh : writer.written = [])
    (hsize : ∀ q, dryRun server decodeName ⟨d, 0⟩ = some q → (requestSendStream q).1 ≤ writer.size) :
    ∃ q, realPass server decodeName ⟨d, 0⟩ writer = some q ∧ q.reply writer = (response server d).getD [] := by
  obtain ⟨q, hq, -, ha⟩ := realPass_spec server decodeName d writer
  obtain ⟨dry, hdry, -, hda⟩ := dryRun_spec server decodeName d
  refine ⟨q, hq, ?_⟩
  cases he : expected server decodeName d with
  | none => simp [QuestionParser.reply, ha, he, response, hfresh]
  | some e =>
    obtain ⟨queryId, ops⟩ := e
    have hroom := hsize dry hdry
    simp only [requestSendStream, processed, hda, he, Option.map_some', processed_runOps_new] at hroom
    have hw := Answer.written_foldl_new server queryId ops writer (by simp [hfresh]; omega)
    rw [hfresh, List.nil_append] at hw
    have hm : (runOps (Answer.perform server) ops (Answer.new queryId writer)).startMarker = 0 := by
      simp [runOps_perform, Answer.new, Answer.write, StreamWriter.constructSaveMarker, hfresh]
    simp only [QuestionParser.reply, ha, he, response, Option.map_some', Option.getD_some]
    rw [Answer.finish_written _ (by rw [hm, runOps, hw]; simp), hm, runOps, hw]
    simp [Answer.foldl_perform, Answer.new, Answer.write]

/-- The size a dry run with an answer asks for is the length of the reply. -/
theorem requestSendStream_eq_length (server : BonjourServer) (d : Bytes)
    {q : QuestionParser (Answer CountingStreamWriter)} (hq : dryRun server decodeName ⟨d, 0⟩ = some q)
    (hans : hasAnswer q = true) :
    ∃ reply, response server d = some reply ∧ (requestSendStream q).1 = reply.length := by
  obtain ⟨q', hq', -, ha⟩ := dryRun_spec server decodeName d
  obtain rfl : q = q' := Option.some.inj (hq.symm.trans hq')
  cases he : expected server decodeName d with
  | none => simp [hasAnswer, ha, he] at hans
  | some e =>
    obtain ⟨queryId, ops⟩ := e
    refine ⟨DnsRecordHeader.toBytes ⟨queryId, DnsRecordHeader.flagsResponse, 0,
      UInt16.ofNat (Answer.answerCount server ops), 0, UInt16.ofNat (Answer.additionalCount server ops)⟩ ++
        Answer.records server ops, by simp [response, he], ?_⟩
    simp [requestSendStream, processed, ha, he, processed_runOps_new]

namespace BonjourServer

/-- `DataReceived`: ignore a datagram from another port or while a reader waits;
    otherwise take its reader, run the dry run over it, and ask for a send stream if
    there is an answer or let the reader go if there is none. -/
def dataReceived (server : BonjourServer) (reader : Reader) (from_ : UdpSocket) :
    Option (BonjourServer × List Action) :=
  if getPort from_ ≠ mdnsPort then some (server, [])
  else if server.waitingReader.isSome then some (server, [])
  else
    (dryRun server decodeName reader).map fun question =>
      if hasAnswer question then
        ({ server with waitingReader := some question.reader },
          [.accept reader.data,
            .requestSendStream (requestSendStream question).1 (requestSendStream question).2])
      else ({ server with waitingReader := none }, [.accept reader.data, .release reader.data])

/-- `SendStreamAvailable`: `assert(waitingReader != nullptr)`, the real pass over the
    waiting reader into the granted buffer, and let the reader go. -/
def sendStreamAvailable (server : BonjourServer) (writer : SendBuffer) :
    Option (BonjourServer × List Action) :=
  match server.waitingReader with
  | none => none
  | some reader =>
    (realPass server decodeName reader writer).map fun question =>
      ({ server with waitingReader := none },
        [.answer reader.data (question.reply writer), .release reader.data])

theorem dataReceived_of_ignored {server : BonjourServer} (reader : Reader) {from_ : UdpSocket}
    (h : getPort from_ ≠ mdnsPort ∨ server.waitingReader.isSome) :
    server.dataReceived reader from_ = some (server, ([] : List Action)) := by
  rcases h with h | h <;> simp [dataReceived, h]

/-- Spec of `DataReceived` on a datagram it takes. -/
theorem dataReceived_of_accepted {server : BonjourServer} (d : Bytes) {from_ : UdpSocket}
    (hport : getPort from_ = mdnsPort) (hidle : server.waitingReader = none) :
    ∃ q, dryRun server decodeName ⟨d, 0⟩ = some q ∧ q.reader = ⟨d, 0⟩ ∧
      server.dataReceived ⟨d, 0⟩ from_ = some (if hasAnswer q then
        ({ server with waitingReader := some ⟨d, 0⟩ },
          [.accept d, .requestSendStream (requestSendStream q).1 (requestSendStream q).2])
      else ({ server with waitingReader := none }, [.accept d, .release d])) := by
  obtain ⟨q, hq, hr, -⟩ := dryRun_spec server decodeName d
  exact ⟨q, hq, hr, by simp [dataReceived, hport, hidle, hq, hr]⟩

/-- Spec of `SendStreamAvailable` while a reader waits. -/
theorem sendStreamAvailable_of_waiting {server : BonjourServer} {reader : Reader}
    (h : server.waitingReader = some reader) (writer : SendBuffer) :
    ∃ q, realPass server decodeName reader writer = some q ∧
      server.sendStreamAvailable writer = some ({ server with waitingReader := none },
        [.answer reader.data (q.reply writer), .release reader.data]) := by
  obtain ⟨q, hq⟩ := Option.isSome_iff_exists.mp (realPass_isSome server decodeName reader writer)
  exact ⟨q, hq, by simp [sendStreamAvailable, h, hq]⟩

end BonjourServer

-- ---------------------------------------------------------------------------
-- The protocol
-- ---------------------------------------------------------------------------

/-- Where one exchange of §4.5 stands: idle, a datagram taken, its send stream asked
    for, or its reply written. -/
inductive Phase
  | idle
  | accepted (data : Bytes)
  | awaiting (data : Bytes)
  | answered (data : Bytes)
  deriving DecidableEq

/-- The actions the protocol allows next: take a datagram when idle; then let it go
    or ask for a send stream; then write the reply over that datagram, and let it go. -/
def Phase.next : Phase → Action → Option Phase
  | .idle, .accept d => some (.accepted d)
  | .accepted d, .release d' => if d = d' then some .idle else none
  | .accepted d, .requestSendStream _ _ => some (.awaiting d)
  | .awaiting d, .answer d' _ => if d = d' then some (.answered d) else none
  | .answered d, .release d' => if d = d' then some .idle else none
  | _, _ => none

/-- Run the protocol over a list of actions; `none` when one is not allowed. -/
def Phase.run : Phase → List Action → Option Phase
  | φ, [] => some φ
  | φ, a :: as => (φ.next a).bind fun φ' => φ'.run as

theorem Phase.run_append (φ : Phase) (xs ys : List Action) :
    φ.run (xs ++ ys) = (φ.run xs).bind fun φ' => φ'.run ys := by
  induction xs generalizing φ with
  | nil => rfl
  | cons a as ih =>
    show ((φ.next a).bind fun φ' => φ'.run (as ++ ys)) = _
    simp only [ih, run, Option.bind_assoc]

-- ---------------------------------------------------------------------------
-- The exchange with the transport
-- ---------------------------------------------------------------------------

/-- The responder and the transport: the server, the requests for a send stream not
    yet granted, and what the responder has done so far. -/
structure Exchange where
  server : BonjourServer
  pending : Nat
  log : List Action

/-- What the transport delivers. -/
inductive Event
  | dataReceived (data : Bytes) (from_ : UdpSocket)
  | sendStreamAvailable (writer : SendBuffer)

namespace Exchange

/-- The responder before any datagram. -/
def init (identity : BonjourServer) : Exchange := ⟨{ identity with waitingReader := none }, 0, []⟩

/-- The transport delivers a datagram at any time, and a send stream only for a
    pending request. -/
def Enabled (s : Exchange) : Event → Prop
  | .dataReceived _ _ => True
  | .sendStreamAvailable _ => 0 < s.pending

/-- The exchange after an event; `none` is an abort or the failed `assert`. -/
def step (s : Exchange) : Event → Option Exchange
  | .dataReceived data from_ =>
    (s.server.dataReceived ⟨data, 0⟩ from_).map fun (server, actions) =>
      ⟨server, s.pending + (actions.filter Action.isRequest).length, s.log ++ actions⟩
  | .sendStreamAvailable writer =>
    (s.server.sendStreamAvailable writer).map fun (server, actions) =>
      ⟨server, s.pending - 1, s.log ++ actions⟩

/-- The states of every run from the idle responder. -/
inductive Reachable (identity : BonjourServer) : Exchange → Prop
  | init : Reachable identity (init identity)
  | step {s s' : Exchange} {e : Event} : Reachable identity s → s.Enabled e → s.step e = some s' →
      Reachable identity s'

/-- Where the exchange stands between events. -/
def phase (s : Exchange) : Phase :=
  match s.server.waitingReader with
  | none => .idle
  | some reader => .awaiting reader.data

/-- Between events, a reader waits exactly while one request is pending, and the
    actions so far follow the protocol up to the exchange's phase. -/
def Inv (s : Exchange) : Prop :=
  (s.server.waitingReader.isSome ↔ s.pending = 1) ∧ s.pending ≤ 1 ∧
    Phase.run .idle s.log = some s.phase

theorem inv_init (identity : BonjourServer) : (init identity).Inv := by
  simp [Inv, init, phase, Phase.run]

theorem step_dataReceived_of_ignored (s : Exchange) (data : Bytes) {from_ : UdpSocket}
    (h : getPort from_ ≠ mdnsPort ∨ s.server.waitingReader.isSome) :
    s.step (.dataReceived data from_) = some s := by
  simp [step, BonjourServer.dataReceived_of_ignored _ h]

/-- A datagram the responder takes: the dry run decides between asking for a send
    stream and letting the reader go at once. -/
theorem step_dataReceived_of_accepted (s : Exchange) (data : Bytes) {from_ : UdpSocket}
    (hport : getPort from_ = mdnsPort) (hidle : s.server.waitingReader = none) :
    ∃ q, dryRun s.server decodeName ⟨data, 0⟩ = some q ∧
      s.step (.dataReceived data from_) = some (if hasAnswer q then
        ⟨{ s.server with waitingReader := some ⟨data, 0⟩ }, s.pending + 1,
          s.log ++ [.accept data, .requestSendStream (requestSendStream q).1 (requestSendStream q).2]⟩
      else ⟨{ s.server with waitingReader := none }, s.pending, s.log ++ [.accept data, .release data]⟩) := by
  obtain ⟨q, hq, -, hdr⟩ := BonjourServer.dataReceived_of_accepted data hport hidle
  refine ⟨q, hq, ?_⟩
  simp only [step, hdr]
  split <;> simp [Action.isRequest]

/-- A grant while a reader waits: the real pass over that reader, then it goes. -/
theorem step_sendStreamAvailable_of_waiting (s : Exchange) {reader : Reader}
    (h : s.server.waitingReader = some reader) (writer : SendBuffer) :
    ∃ q, realPass s.server decodeName reader writer = some q ∧
      s.step (.sendStreamAvailable writer) = some ⟨{ s.server with waitingReader := none },
        s.pending - 1, s.log ++ [.answer reader.data (q.reply writer), .release reader.data]⟩ := by
  obtain ⟨q, hq, hsa⟩ := BonjourServer.sendStreamAvailable_of_waiting h writer
  exact ⟨q, hq, by simp [step, hsa]⟩

theorem Inv.waiting {s : Exchange} (hs : s.Inv) (h : 0 < s.pending) :
    ∃ r, s.server.waitingReader = some r :=
  Option.isSome_iff_exists.mp (hs.1.mpr (by have := hs.2.1; omega))

theorem inv_step {s s' : Exchange} {e : Event} (hs : s.Inv) (he : s.Enabled e)
    (hstep : s.step e = some s') : s'.Inv := by
  obtain ⟨hwait, hle, hrun⟩ := hs
  cases e with
  | dataReceived data from_ =>
    by_cases hign : getPort from_ ≠ mdnsPort ∨ s.server.waitingReader.isSome
    · rw [step_dataReceived_of_ignored s data hign] at hstep
      cases hstep
      exact ⟨hwait, hle, hrun⟩
    · simp only [not_or, not_not, Option.not_isSome_iff_eq_none] at hign
      obtain ⟨q, -, hst⟩ := step_dataReceived_of_accepted s data hign.1 hign.2
      have hpend : s.pending = 0 := by simp [hign.2] at hwait; omega
      rw [show s.phase = .idle by simp [phase, hign.2]] at hrun
      rw [hst] at hstep
      cases hstep
      split <;> simp [Inv, phase, Phase.run_append, hrun, hpend, Phase.run, Phase.next]
  | sendStreamAvailable writer =>
    obtain ⟨reader, hreader⟩ := Inv.waiting ⟨hwait, hle, hrun⟩ he
    obtain ⟨q, -, hst⟩ := step_sendStreamAvailable_of_waiting s hreader writer
    have hpend : s.pending = 1 := hwait.mp (by simp [hreader])
    rw [hst] at hstep
    cases hstep
    simp [Inv, phase, Phase.run_append, hrun, hreader, hpend, Phase.run, Phase.next]

/-- No enabled event aborts or fails the `assert` from a state of the invariant. -/
theorem step_isSome {s : Exchange} {e : Event} (hs : s.Inv) (he : s.Enabled e) : (s.step e).isSome := by
  cases e with
  | dataReceived data from_ =>
    by_cases hign : getPort from_ ≠ mdnsPort ∨ s.server.waitingReader.isSome
    · simp [step_dataReceived_of_ignored s data hign]
    · simp only [not_or, not_not, Option.not_isSome_iff_eq_none] at hign
      obtain ⟨q, -, hst⟩ := step_dataReceived_of_accepted s data hign.1 hign.2
      simp [hst]
  | sendStreamAvailable writer =>
    obtain ⟨reader, hreader⟩ := hs.waiting he
    obtain ⟨q, -, hst⟩ := step_sendStreamAvailable_of_waiting s hreader writer
    simp [hst]

theorem Reachable.inv {identity : BonjourServer} {s : Exchange} (h : Reachable identity s) : s.Inv := by
  induction h with
  | init => exact inv_init identity
  | step _ he hstep ih => exact inv_step ih he hstep

/-- Everything an enabled step can do from a state of the invariant: change nothing, for a
    datagram it ignores; take a datagram and let it go at once; take a datagram and ask for
    a send stream; or, on a grant, write the real pass over the waiting reader and let it go. -/
theorem step_cases {s s' : Exchange} {e : Event} (hs : s.Inv) (he : s.Enabled e)
    (hstep : s.step e = some s') :
    s' = s ∨
    (∃ data from_ q, e = .dataReceived data from_ ∧ s.server.waitingReader = none ∧
      dryRun s.server decodeName ⟨data, 0⟩ = some q ∧ hasAnswer q = false ∧
      s' = ⟨{ s.server with waitingReader := none }, s.pending, s.log ++ [.accept data, .release data]⟩) ∨
    (∃ data from_ q, e = .dataReceived data from_ ∧ s.server.waitingReader = none ∧
      dryRun s.server decodeName ⟨data, 0⟩ = some q ∧ hasAnswer q = true ∧
      s' = ⟨{ s.server with waitingReader := some ⟨data, 0⟩ }, s.pending + 1,
        s.log ++ [.accept data, .requestSendStream (requestSendStream q).1 (requestSendStream q).2]⟩) ∨
    (∃ writer r q, e = .sendStreamAvailable writer ∧ s.server.waitingReader = some r ∧
      realPass s.server decodeName r writer = some q ∧
      s' = ⟨{ s.server with waitingReader := none }, s.pending - 1,
        s.log ++ [.answer r.data (q.reply writer), .release r.data]⟩) := by
  cases e with
  | dataReceived data from_ =>
    by_cases hign : getPort from_ ≠ mdnsPort ∨ s.server.waitingReader.isSome
    · rw [step_dataReceived_of_ignored s data hign] at hstep
      exact .inl (Option.some.inj hstep).symm
    · simp only [not_or, not_not, Option.not_isSome_iff_eq_none] at hign
      obtain ⟨q, hq, hst⟩ := step_dataReceived_of_accepted s data hign.1 hign.2
      rw [hst] at hstep
      cases hans : hasAnswer q
      · rw [if_neg (by simp [hans])] at hstep
        exact .inr (.inl ⟨data, from_, q, rfl, hign.2, hq, hans, (Option.some.inj hstep).symm⟩)
      · rw [if_pos hans] at hstep
        exact .inr (.inr (.inl ⟨data, from_, q, rfl, hign.2, hq, hans, (Option.some.inj hstep).symm⟩))
  | sendStreamAvailable writer =>
    obtain ⟨r, hr⟩ := hs.waiting he
    obtain ⟨q, hq, hst⟩ := step_sendStreamAvailable_of_waiting s hr writer
    rw [hst] at hstep
    exact .inr (.inr (.inr ⟨writer, r, q, rfl, hr, hq, (Option.some.inj hstep).symm⟩))

/-- What `DataReceived` does with a datagram it takes: the dry run decides between letting
    the reader go at once and asking for a send stream. -/
theorem step_dataReceived_taken (s : Exchange) {data : Bytes} {from_ : UdpSocket} {s' : Exchange}
    (hport : getPort from_ = mdnsPort) (hidle : s.server.waitingReader = none)
    (hstep : s.step (.dataReceived data from_) = some s') :
    ∃ q, dryRun s.server decodeName ⟨data, 0⟩ = some q ∧
      (hasAnswer q = false →
        s'.log = s.log ++ [.accept data, .release data] ∧ s'.server.waitingReader = none) ∧
      (hasAnswer q = true →
        s'.log = s.log ++ [.accept data, .requestSendStream (requestSendStream q).1 (requestSendStream q).2] ∧
        s'.server.waitingReader = some ⟨data, 0⟩) := by
  obtain ⟨q, hq, hst⟩ := step_dataReceived_of_accepted s data hport hidle
  rw [hst] at hstep
  refine ⟨q, hq, fun hans => ?_, fun hans => ?_⟩ <;> simp only [hans] at hstep <;> cases hstep <;>
    exact ⟨rfl, rfl⟩

/-- What a grant does: the real pass over the waiting reader, the reply, and the release of
    that same reader. -/
theorem step_sendStreamAvailable (s : Exchange) {writer : SendBuffer} {s' : Exchange}
    (hstep : s.step (.sendStreamAvailable writer) = some s') :
    ∃ r q, s.server.waitingReader = some r ∧ realPass s.server decodeName r writer = some q ∧
      s'.log = s.log ++ [.answer r.data (q.reply writer), .release r.data] ∧
      s'.server.waitingReader = none := by
  cases hr : s.server.waitingReader with
  | none => simp [step, BonjourServer.sendStreamAvailable, hr] at hstep
  | some r =>
    obtain ⟨q, hq, hst⟩ := step_sendStreamAvailable_of_waiting s hr writer
    rw [hst] at hstep
    cases hstep
    exact ⟨r, q, rfl, hq, rfl, rfl⟩

/-- In every state of every run: `waitingReader` is set exactly while one request for a
    send stream is pending, so at most one is; no event the transport may deliver aborts or
    fails the `assert`; a datagram from another port, or one that arrives while a reader
    waits, changes nothing. A datagram taken is let go in the same `DataReceived` exactly when
    the dry run over it has no answer; otherwise a send stream is asked for, and the grant runs
    the real pass over that same reader, writes the reply and lets it go. The whole log
    follows the protocol, each reader taken let go exactly once. -/
theorem exchange_invariant (identity : BonjourServer) {s : Exchange} (h : Reachable identity s) :
    (s.server.waitingReader.isSome ↔ s.pending = 1) ∧ s.pending ≤ 1 ∧
    (∀ e, s.Enabled e → (s.step e).isSome) ∧
    (∀ data from_, getPort from_ ≠ mdnsPort ∨ s.server.waitingReader.isSome →
      s.step (.dataReceived data from_) = some s) ∧
    (∀ data from_ s', getPort from_ = mdnsPort → s.server.waitingReader = none →
      s.step (.dataReceived data from_) = some s' →
      ∃ q, dryRun s.server decodeName ⟨data, 0⟩ = some q ∧
        (hasAnswer q = false →
          s'.log = s.log ++ [.accept data, .release data] ∧ s'.server.waitingReader = none) ∧
        (hasAnswer q = true →
          s'.log = s.log ++ [.accept data, .requestSendStream (requestSendStream q).1 (requestSendStream q).2] ∧
          s'.server.waitingReader = some ⟨data, 0⟩)) ∧
    (∀ writer s', s.step (.sendStreamAvailable writer) = some s' →
      ∃ r q, s.server.waitingReader = some r ∧ realPass s.server decodeName r writer = some q ∧
        s'.log = s.log ++ [.answer r.data (q.reply writer), .release r.data] ∧ s'.server.waitingReader = none) ∧
    Phase.run .idle s.log = some s.phase := by
  obtain ⟨hwait, hle, hrun⟩ := h.inv
  exact ⟨hwait, hle, fun _ he => step_isSome h.inv he,
    fun data _ hign => step_dataReceived_of_ignored s data hign,
    fun _ _ _ hport hidle hstep => step_dataReceived_taken s hport hidle hstep,
    fun _ _ hstep => step_sendStreamAvailable s hstep, hrun⟩

/-- `hostIdentity` after taking `aQuery`: its reader waits, and 35 bytes are asked for. -/
def aQueryTaken : Exchange :=
  ⟨{ hostIdentity with waitingReader := some ⟨aQuery, 0⟩ }, 1,
    [.accept aQuery, .requestSendStream 35 (makeUdpSocket mdnsMulticastAddress mdnsPort)]⟩

theorem reachable_aQueryTaken : Reachable hostIdentity aQueryTaken :=
  .step (e := .dataReceived aQuery (makeUdpSocket mdnsMulticastAddress mdnsPort)) .init trivial rfl

theorem exchange_invariant_a_query :
    Reachable hostIdentity aQueryTaken ∧
    (aQueryTaken.server.waitingReader.isSome ↔ aQueryTaken.pending = 1) ∧ aQueryTaken.pending ≤ 1 ∧
    (∀ e, aQueryTaken.Enabled e → (aQueryTaken.step e).isSome) ∧
    (∀ data from_, getPort from_ ≠ mdnsPort ∨ aQueryTaken.server.waitingReader.isSome →
      aQueryTaken.step (.dataReceived data from_) = some aQueryTaken) ∧
    (∀ data from_ s', getPort from_ = mdnsPort → aQueryTaken.server.waitingReader = none →
      aQueryTaken.step (.dataReceived data from_) = some s' →
      ∃ q, dryRun aQueryTaken.server decodeName ⟨data, 0⟩ = some q ∧
        (hasAnswer q = false →
          s'.log = aQueryTaken.log ++ [.accept data, .release data] ∧ s'.server.waitingReader = none) ∧
        (hasAnswer q = true →
          s'.log = aQueryTaken.log ++ [.accept data, .requestSendStream (requestSendStream q).1 (requestSendStream q).2] ∧
          s'.server.waitingReader = some ⟨data, 0⟩)) ∧
    (∀ writer s', aQueryTaken.step (.sendStreamAvailable writer) = some s' →
      ∃ r q, aQueryTaken.server.waitingReader = some r ∧ realPass aQueryTaken.server decodeName r writer = some q ∧
        s'.log = aQueryTaken.log ++ [.answer r.data (q.reply writer), .release r.data] ∧ s'.server.waitingReader = none) ∧
    Phase.run .idle aQueryTaken.log = some aQueryTaken.phase :=
  ⟨reachable_aQueryTaken, exchange_invariant hostIdentity reachable_aQueryTaken⟩

theorem hasAnswer_isSome {W : Type} {p : QuestionParser (Answer W)} (h : hasAnswer p = true) :
    p.answer.isSome := by
  unfold hasAnswer at h
  split at h <;> simp_all

/-- Between events, the waiting reader is at the start of a datagram that has a reply. -/
theorem Reachable.waiting {identity : BonjourServer} {s : Exchange} (h : Reachable identity s)
    {r : Reader} (hr : s.server.waitingReader = some r) :
    r = ⟨r.data, 0⟩ ∧ (response s.server r.data).isSome := by
  induction h generalizing r with
  | init => simp [Exchange.init] at hr
  | @step s s' e hreach he hstep ih =>
    cases e with
    | dataReceived data from_ =>
      by_cases hign : getPort from_ ≠ mdnsPort ∨ s.server.waitingReader.isSome
      · rw [step_dataReceived_of_ignored s data hign] at hstep
        cases hstep
        exact ih hr
      · simp only [not_or, not_not, Option.not_isSome_iff_eq_none] at hign
        obtain ⟨q, hq, hst⟩ := step_dataReceived_of_accepted s data hign.1 hign.2
        obtain ⟨q', hq', -, ha⟩ := dryRun_spec s.server decodeName data
        obtain rfl : q = q' := Option.some.inj (hq.symm.trans hq')
        rw [hst] at hstep
        cases hstep
        by_cases hans : hasAnswer q = true
        · rw [if_pos hans] at hr ⊢
          have hexp := hasAnswer_isSome hans
          rw [ha] at hexp
          cases hr
          exact ⟨rfl, show (response s.server data).isSome by simpa [response] using hexp⟩
        · rw [if_neg hans] at hr
          cases hr
    | sendStreamAvailable writer =>
      obtain ⟨reader, hreader⟩ := hreach.inv.waiting he
      obtain ⟨q, -, hst⟩ := step_sendStreamAvailable_of_waiting s hreader writer
      rw [hst] at hstep
      cases hstep
      cases hr

/-- In every state of every run, a grant of an empty buffer of the size the dry run
    over the waiting reader asks for writes into it the reply `response` asks for to
    that reader's datagram, and lets the reader go. -/
theorem exchange_reply (identity : BonjourServer) {s : Exchange} (h : Reachable identity s)
    {r : Reader} (hr : s.server.waitingReader = some r) (writer : SendBuffer)
    (hfresh : writer.written = [])
    (hsize : ∀ q, dryRun s.server decodeName r = some q → (requestSendStream q).1 ≤ writer.size) :
    ∃ reply, response s.server r.data = some reply ∧
      s.step (.sendStreamAvailable writer) = some ⟨{ s.server with waitingReader := none },
        s.pending - 1, s.log ++ [.answer r.data reply, .release r.data]⟩ := by
  obtain ⟨hr0, hresp⟩ := h.waiting hr
  obtain ⟨reply, hreply⟩ := Option.isSome_iff_exists.mp hresp
  rw [hr0] at hsize
  obtain ⟨q, hq, hq'⟩ := realPass_reply s.server r.data writer hfresh hsize
  obtain ⟨q₁, hq₁, hst⟩ := step_sendStreamAvailable_of_waiting s hr writer
  rw [hr0, hq] at hq₁
  cases hq₁
  exact ⟨reply, hreply, by rw [hst, hq', hreply]; rfl⟩

-- ---------------------------------------------------------------------------
-- Whole runs
-- ---------------------------------------------------------------------------

/-- A step changes nothing of the server but the waiting reader. -/
theorem step_server {s s' : Exchange} {e : Event} (hs : s.Inv) (he : s.Enabled e)
    (hstep : s.step e = some s') :
    s'.server = { s.server with waitingReader := s'.server.waitingReader } := by
  rcases step_cases hs he hstep with rfl | ⟨-, -, -, -, -, -, -, rfl⟩ | ⟨-, -, -, -, -, -, -, rfl⟩ |
    ⟨-, -, -, -, -, -, rfl⟩ <;> rfl

/-- The server of every reachable state is the identity it was made with but for the
    waiting reader. -/
theorem Reachable.server_eq {identity : BonjourServer} {s : Exchange} (h : Reachable identity s) :
    s.server = { identity with waitingReader := s.server.waitingReader } := by
  induction h with
  | init => rfl
  | step hreach he hstep ih =>
    rw [step_server hreach.inv he hstep, ih]

/-- A transport that grants, for the pending request, an empty buffer at least as large
    as the size the dry run asked for. -/
def Fits (s : Exchange) : Event → Prop
  | .dataReceived _ _ => True
  | .sendStreamAvailable writer => 0 < s.pending ∧ writer.written = [] ∧
      ∀ r q, s.server.waitingReader = some r → dryRun s.server decodeName r = some q →
        (requestSendStream q).1 ≤ writer.size

/-- The states of every run from the idle responder over a transport that grants what
    is asked. -/
inductive Served (identity : BonjourServer) : Exchange → Prop
  | init : Served identity (init identity)
  | step {s s' : Exchange} {e : Event} : Served identity s → s.Fits e → s.step e = some s' →
      Served identity s'

theorem Fits.enabled {s : Exchange} {e : Event} (h : s.Fits e) : s.Enabled e := by
  cases e with
  | dataReceived => trivial
  | sendStreamAvailable => exact h.1

theorem Served.reachable {identity : BonjourServer} {s : Exchange} (h : Served identity s) :
    Reachable identity s := by
  induction h with
  | init => exact .init
  | step _ hfits hstep ih => exact .step ih hfits.enabled hstep

/-- The reply does not depend on the waiting reader. -/
@[simp] theorem response_waitingReader (server : BonjourServer) (r : Option Reader) (d : Bytes) :
    response { server with waitingReader := r } d = response server d := rfl

/-- Over a transport that grants what is asked, a grant writes the response to the waiting
    reader's datagram. -/
theorem Served.grant_reply {identity : BonjourServer} {s : Exchange} (h : Served identity s)
    {writer : SendBuffer} (hfits : s.Fits (.sendStreamAvailable writer)) {r : Reader}
    (hr : s.server.waitingReader = some r) {q : QuestionParser (Answer SendBuffer)}
    (hq : realPass s.server decodeName r writer = some q) :
    response identity r.data = some (q.reply writer) := by
  obtain ⟨-, hfresh, hsize⟩ := hfits
  obtain ⟨hr0, -⟩ := h.reachable.waiting hr
  rw [hr0] at hq
  obtain ⟨q', hq', hreply⟩ :=
    realPass_reply s.server r.data writer hfresh fun q hq' => hsize r q hr (by rwa [hr0])
  obtain rfl : q = q' := Option.some.inj (hq.symm.trans hq')
  obtain ⟨reply, hsome⟩ := Option.isSome_iff_exists.mp (h.reachable.waiting hr).2
  rw [hreply, h.reachable.server_eq, response_waitingReader] at *
  simp [hsome]

/-- What a step over a transport that grants what is asked adds to the replies: at most the
    response to the waiting reader's datagram. -/
theorem Served.answer_of_step {identity : BonjourServer} {s s' : Exchange} {e : Event} (h : Served identity s)
    (hfits : s.Fits e) (hstep : s.step e = some s') {data reply : Bytes}
    (hans : Action.answer data reply ∈ s'.log) :
    Action.answer data reply ∈ s.log ∨
      ∃ r, s.server.waitingReader = some r ∧ data = r.data ∧ response identity data = some reply := by
  rcases step_cases h.reachable.inv hfits.enabled hstep with rfl | ⟨_, _, _, -, -, -, -, rfl⟩ |
    ⟨_, _, _, -, -, -, -, rfl⟩ | ⟨writer, r, q, rfl, hr, hq, rfl⟩
  · exact .inl hans
  · exact .inl (by simpa using hans)
  · exact .inl (by simpa using hans)
  · simp only [List.mem_append, List.mem_cons, Action.answer.injEq, List.mem_singleton,
      List.not_mem_nil, or_false] at hans
    rcases hans with hans | ⟨rfl, rfl⟩ | hans
    · exact .inl hans
    · exact .inr ⟨r, hr, rfl, h.grant_reply hfits hr hq⟩
    · cases hans

/-- After an A query for `i.local` to the identity `i.s.t.local` at `10.0.0.1`, the
    transport grants an empty buffer of the 35 bytes asked for. -/
theorem fits_a_query :
    Fits aQueryTaken (.sendStreamAvailable ⟨[], 35, Nat.zero_le _⟩) := by
  refine ⟨by decide, rfl, fun r q hr hq => ?_⟩
  cases hr
  have h35 := congrArg (Option.map fun p => (requestSendStream p).1) hq
  exact (Option.some.inj (h35.symm.trans rfl) : (requestSendStream q).1 = 35).le

/-- `hostIdentity` after answering `aQuery` with `aReply`, back to idle. -/
def aQueryAnswered : Exchange :=
  ⟨hostIdentity, 0,
    [.accept aQuery, .requestSendStream 35 (makeUdpSocket mdnsMulticastAddress mdnsPort),
     .answer aQuery aReply, .release aQuery]⟩

/-- The A query for `i.local`, answered over a transport that grants what is asked. -/
theorem served_a_query : Served hostIdentity aQueryAnswered :=
  .step (.step (e := .dataReceived aQuery
    (makeUdpSocket mdnsMulticastAddress mdnsPort)) .init trivial rfl) fits_a_query rfl

/-- Over a transport that grants what is asked, every reply the responder sends in a
    run is the response §4.4 asks for to the datagram it answers. -/
theorem Served.replies {identity : BonjourServer} {s : Exchange} (h : Served identity s)
    {data reply : Bytes} (hans : Action.answer data reply ∈ s.log) :
    response identity data = some reply := by
  induction h with
  | init => simp [Exchange.init] at hans
  | step hserved hfits hstep ih =>
    rcases hserved.answer_of_step hfits hstep hans with hans | ⟨-, -, -, hreply⟩
    · exact ih hans
    · exact hreply

theorem replies_a_query :
    Served hostIdentity aQueryAnswered ∧
    Action.answer aQuery aReply ∈ aQueryAnswered.log ∧
    response hostIdentity aQuery = some aReply :=
  ⟨served_a_query, .tail _ (.tail _ (.head _)), Served.replies served_a_query (.tail _ (.tail _ (.head _)))⟩

/-- The dry run over a datagram keeps an answer exactly when the reply to it counts one. -/
theorem hasAnswer_iff_response (server : BonjourServer) (d : Bytes)
    {q : QuestionParser (Answer CountingStreamWriter)} (hq : dryRun server decodeName ⟨d, 0⟩ = some q) :
    hasAnswer q = true ↔
      ∃ reply, response server d = some reply ∧ (DnsRecordHeader.ofBytes reply).answersCount ≠ 0 := by
  obtain ⟨q', hq', -, ha⟩ := dryRun_spec server decodeName d
  obtain rfl : q = q' := Option.some.inj (hq.symm.trans hq')
  cases he : expected server decodeName d with
  | none => simp [hasAnswer, ha, he, response]
  | some e =>
    obtain ⟨queryId, ops⟩ := e
    simp only [hasAnswer, ha, he, response, Option.map_some', runOps_perform, Answer.new, Answer.write,
      zero_add, bne_iff_ne, Option.some.injEq, exists_eq_left', DnsRecordHeader.ofBytes_toBytes]

/-- While a reader waits, the reply to its datagram counts at least one answer, and the
    last thing the responder did is ask for a send stream of its length. -/
theorem Reachable.waiting_reply {identity : BonjourServer} {s : Exchange} (h : Reachable identity s)
    {r : Reader} (hr : s.server.waitingReader = some r) :
    ∃ reply dest, response identity r.data = some reply ∧ (DnsRecordHeader.ofBytes reply).answersCount ≠ 0 ∧
      s.log.getLast? = some (.requestSendStream reply.length dest) := by
  induction h generalizing r with
  | init => simp [Exchange.init] at hr
  | @step s s' e hreach he hstep ih =>
    rcases step_cases hreach.inv he hstep with rfl | ⟨_, _, _, -, -, -, -, rfl⟩ |
      ⟨data, _, q, -, -, hq, hans, rfl⟩ | ⟨_, _, _, -, -, -, rfl⟩
    · exact ih hr
    · simp at hr
    · obtain rfl : ⟨data, 0⟩ = r := Option.some.inj hr
      obtain ⟨reply, hreply, hlen⟩ := requestSendStream_eq_length s.server data hq hans
      obtain ⟨reply', hreply', hcount⟩ := (hasAnswer_iff_response s.server data hq).mp hans
      obtain rfl : reply = reply' := Option.some.inj (hreply.symm.trans hreply')
      rw [hreach.server_eq, response_waitingReader] at hreply
      exact ⟨reply, (requestSendStream q).2, hreply, hcount, by simp [hlen]⟩
    · simp at hr

/-- Over a transport that grants what is asked, every reply fills exactly the send stream
    asked for just before it: the dry run's count is the length of the real pass's reply. -/
theorem Served.reply_length {identity : BonjourServer} {s : Exchange} (h : Served identity s) :
    s.log.Chain' fun a b => ∀ n dest data reply,
      a = .requestSendStream n dest → b = .answer data reply → reply.length = n := by
  induction h with
  | init => exact List.chain'_nil
  | @step s s' e hserved hfits hstep ih =>
    rcases step_cases hserved.reachable.inv hfits.enabled hstep with rfl | ⟨_, _, _, -, -, -, -, rfl⟩ |
      ⟨_, _, _, -, -, -, -, rfl⟩ | ⟨writer, r, q, rfl, hr, hq, rfl⟩
    · exact ih
    · simp [List.chain'_append, ih]
    · simp [List.chain'_append, ih]
    · obtain ⟨reply, dest, hreply, -, hlast⟩ := hserved.reachable.waiting_reply hr
      obtain rfl : reply = q.reply writer :=
        Option.some.inj (hreply.symm.trans (hserved.grant_reply hfits hr hq))
      simp only [List.chain'_append, ih, hlast, Option.mem_def, Option.some.injEq, forall_eq']
      refine ⟨trivial, by simp, ?_⟩
      rintro _ hy n _ _ _ heq rfl
      simp only [List.head?_cons, Option.some.injEq, Action.answer.injEq] at hy
      simp only [Action.requestSendStream.injEq] at heq
      rw [← hy.2, heq.1]

theorem reply_length_a_query :
    Served hostIdentity aQueryAnswered ∧
    List.Chain' (fun a b : Action => ∀ n dest data (reply : Bytes),
        a = .requestSendStream n dest → b = .answer data reply → reply.length = n)
      aQueryAnswered.log :=
  ⟨served_a_query, Served.reply_length served_a_query⟩

/-- Over a transport that grants what is asked, the responder never sends a reply without
    a record in its answer section: the header of every reply in a run counts at least one
    answer, since a send stream is asked for only when `HasAnswer` holds. -/
theorem Served.reply_answersCount {identity : BonjourServer} {s : Exchange} (h : Served identity s)
    {data reply : Bytes} (hans : Action.answer data reply ∈ s.log) :
    (DnsRecordHeader.ofBytes reply).answersCount ≠ 0 := by
  induction h with
  | init => simp [Exchange.init] at hans
  | step hserved hfits hstep ih =>
    rcases hserved.answer_of_step hfits hstep hans with hans | ⟨r, hr, rfl, hreply⟩
    · exact ih hans
    · obtain ⟨reply', -, hreply', hcount, -⟩ := hserved.reachable.waiting_reply hr
      rwa [Option.some.inj (hreply'.symm.trans hreply)] at hcount

theorem reply_answersCount_a_query :
    Served hostIdentity aQueryAnswered ∧
    Action.answer aQuery aReply ∈ aQueryAnswered.log ∧
    (DnsRecordHeader.ofBytes aReply).answersCount ≠ 0 :=
  ⟨served_a_query, .tail _ (.tail _ (.head _)),
    Served.reply_answersCount served_a_query (.tail _ (.tail _ (.head _)))⟩

end Exchange

end Bonjour
