import Bonjour.Responder

/-!
# Every reply owed is sent, once and in order

A datagram is owed a reply when the response to it counts an answer (§4.5). Over a
transport that grants what is asked, the replies sent are the replies owed to the datagrams
taken, in order and each once; a datagram that arrives while a reader waits leaves no trace
(§5). There is no timeout on the wait for a buffer, so a transport that cannot grant the
size asked for holds the responder for good.
-/

namespace Bonjour

open QuestionParser

/-- The reply a datagram is owed: the response to it, when that counts an answer. -/
def owed (identity : BonjourServer) (data : Bytes) : Option Bytes :=
  (response identity data).filter fun reply => (DnsRecordHeader.ofBytes reply).answersCount != 0

@[simp] theorem owed_waitingReader (server : BonjourServer) (r : Option Reader) (d : Bytes) :
    owed { server with waitingReader := r } d = owed server d := rfl

theorem owed_eq_some_iff {server : BonjourServer} {d reply : Bytes} :
    owed server d = some reply ↔
      response server d = some reply ∧ (DnsRecordHeader.ofBytes reply).answersCount ≠ 0 := by
  simp [owed]

/-- A datagram whose dry run has no answer is owed no reply. -/
theorem owed_of_hasAnswer_false {server : BonjourServer} {d : Bytes}
    {q : QuestionParser (Answer CountingStreamWriter)} (hq : dryRun server decodeName ⟨d, 0⟩ = some q)
    (hans : hasAnswer q = false) : owed server d = none := by
  cases ho : owed server d with
  | none => rfl
  | some reply =>
    have := (Exchange.hasAnswer_iff_response server d hq).mpr ⟨reply, owed_eq_some_iff.mp ho⟩
    simp [hans] at this

/-- The dry run over a datagram owed a reply has an answer, and asks for a stream of the
    reply's length. -/
theorem requestSendStream_of_owed {server : BonjourServer} {d reply : Bytes} (howed : owed server d = some reply)
    {q : QuestionParser (Answer CountingStreamWriter)} (hq : dryRun server decodeName ⟨d, 0⟩ = some q) :
    hasAnswer q = true ∧ (requestSendStream q).1 = reply.length := by
  obtain ⟨hreply, hcount⟩ := owed_eq_some_iff.mp howed
  have hans := (Exchange.hasAnswer_iff_response server d hq).mpr ⟨reply, hreply, hcount⟩
  obtain ⟨reply', hreply', hlen⟩ := requestSendStream_eq_length server d hq hans
  obtain rfl : reply = reply' := Option.some.inj (hreply.symm.trans hreply')
  exact ⟨hans, hlen⟩

/-- The datagram an action takes. -/
def Action.taken? : Action → Option Bytes
  | .accept data => some data
  | _ => none

/-- The reply an action sends, with the datagram it answers. -/
def Action.sent? : Action → Option (Bytes × Bytes)
  | .answer data reply => some (data, reply)
  | _ => none

namespace Exchange

/-- The replies sent so far, in order, each with the datagram it answers. -/
def sent (s : Exchange) : List (Bytes × Bytes) := s.log.filterMap Action.sent?

/-- The replies owed, in order, to the datagrams taken so far. -/
def owedReplies (identity : BonjourServer) (s : Exchange) : List (Bytes × Bytes) :=
  (s.log.filterMap Action.taken?).filterMap fun data => (owed identity data).map (data, ·)

/-- The reply owed to the waiting reader's datagram, not yet sent. -/
def outstanding (identity : BonjourServer) (s : Exchange) : Option (Bytes × Bytes) :=
  s.server.waitingReader.bind fun r => (owed identity r.data).map (r.data, ·)

variable {identity : BonjourServer} {s : Exchange}

/-- The waiting reader's datagram is owed the reply that the last request asked a stream for. -/
theorem Reachable.owed_waiting (h : Reachable identity s) {r : Reader} (hr : s.server.waitingReader = some r) :
    ∃ reply, response identity r.data = some reply ∧ owed identity r.data = some reply := by
  obtain ⟨reply, -, hreply, hcount, -⟩ := h.waiting_reply hr
  exact ⟨reply, hreply, owed_eq_some_iff.mpr ⟨hreply, hcount⟩⟩

/-- Over a transport that grants what is asked, every reply sent is the one its datagram is owed. -/
theorem Served.answer_owed (h : Served identity s) {data reply : Bytes} (hans : Action.answer data reply ∈ s.log) :
    owed identity data = some reply := by
  induction h with
  | init => simp [Exchange.init] at hans
  | step hserved hfits hstep ih =>
    rcases hserved.answer_of_step hfits hstep hans with hans | ⟨r, hr, rfl, hreply⟩
    · exact ih hans
    · obtain ⟨reply', hreply', howed⟩ := hserved.reachable.owed_waiting hr
      rwa [Option.some.inj (hreply'.symm.trans hreply)] at howed

/-- Exactly once, in order: over a transport that grants what is asked, in every run, the
    replies sent, followed by the reply owed to the waiting reader, are the replies owed to
    the datagrams taken, in the order they were taken. Between exchanges, the replies sent
    are exactly the replies owed. -/
theorem Served.sent_owed (h : Served identity s) :
    s.sent ++ (s.outstanding identity).toList = s.owedReplies identity := by
  induction h with
  | init => rfl
  | @step s s' e hserved hfits hstep ih =>
    have hreach := hserved.reachable
    simp only [sent, owedReplies, outstanding] at ih ⊢
    rcases step_cases hreach.inv hfits.enabled hstep with rfl | ⟨data, _, q, -, hidle, hq, hans, rfl⟩ |
      ⟨data, _, _, -, hidle, -, -, rfl⟩ | ⟨writer, r, q, rfl, hr, hq, rfl⟩
    · exact ih
    · have hnone := owed_of_hasAnswer_false hq hans
      rw [hreach.server_eq, owed_waitingReader] at hnone
      simpa [hidle, hnone, Action.taken?, Action.sent?] using ih
    · simp [hidle, Action.taken?, Action.sent?, List.filterMap_cons] at ih ⊢
      rcases owed identity data with _ | reply <;> simpa using ih
    · obtain ⟨reply, hreply, howed⟩ := hreach.owed_waiting hr
      obtain rfl : reply = q.reply writer := Option.some.inj (hreply.symm.trans (hserved.grant_reply hfits hr hq))
      simpa [hr, howed, Action.taken?, Action.sent?] using ih

/-- The A query for `i.local` taken by the identity `i.s.t.local`, its reply still owed. -/
theorem sent_owed_a_query :
    Served hostIdentity aQueryTaken ∧
    sent aQueryTaken ++ (outstanding hostIdentity aQueryTaken).toList =
      owedReplies hostIdentity aQueryTaken :=
  have h : Served hostIdentity aQueryTaken :=
    .step (e := .dataReceived aQuery (makeUdpSocket mdnsMulticastAddress mdnsPort)) .init trivial rfl
  ⟨h, Served.sent_owed h⟩

/-- Progress: from every idle state, a datagram from the mDNS port that is owed a reply is
    taken with a request for a stream of the reply's length, and the grant of an empty buffer
    of that length sends the reply and lets the reader go. -/
theorem Reachable.answers (h : Reachable identity s) (hidle : s.server.waitingReader = none)
    {data reply : Bytes} (howed : owed identity data = some reply) (from_ : UdpSocket)
    (hport : getPort from_ = mdnsPort) :
    ∃ s₁, s.step (.dataReceived data from_) = some s₁ ∧
      s₁.Fits (.sendStreamAvailable ⟨[], reply.length, Nat.zero_le _⟩) ∧
      s₁.step (.sendStreamAvailable ⟨[], reply.length, Nat.zero_le _⟩) = some { s with log := s.log ++
        [.accept data, .requestSendStream reply.length (makeUdpSocket mdnsMulticastAddress mdnsPort),
          .answer data reply, .release data] } := by
  have howed' : ∀ r, owed { s.server with waitingReader := r } data = some reply := fun r => by
    rwa [owed_waitingReader, h.server_eq, owed_waitingReader]
  obtain ⟨q, hq, hst⟩ := step_dataReceived_of_accepted s data hport hidle
  obtain ⟨hans, hlen⟩ := requestSendStream_of_owed (by simpa using howed' none) hq
  rw [if_pos hans] at hst
  have hsize : ∀ q', dryRun { s.server with waitingReader := some ⟨data, 0⟩ } decodeName ⟨data, 0⟩ = some q' →
      (requestSendStream q').1 ≤ reply.length := fun q' hq' => (requestSendStream_of_owed (howed' _) hq').2.le
  obtain ⟨reply', hreply', hgrant⟩ :=
    exchange_reply identity (.step (e := .dataReceived data from_) h trivial hst) rfl
      ⟨[], reply.length, Nat.zero_le _⟩ rfl hsize
  obtain rfl : reply = reply' := Option.some.inj ((owed_eq_some_iff.mp (howed' _)).1.symm.trans hreply')
  refine ⟨_, hst, ⟨Nat.succ_pos _, rfl, fun r q' hr => by cases hr; exact hsize q'⟩, ?_⟩
  rw [hgrant, hlen]
  obtain ⟨⟨⟩, _, _⟩ := s
  subst hidle
  simp [requestSendStream]

/-- Backpressure (§5): a second datagram that arrives before the buffer for the reply to the
    first is granted is dropped without a trace, whatever it holds and wherever it comes from.
    Only the first datagram's reply is sent. -/
theorem Reachable.drops_second (h : Reachable identity s) (hidle : s.server.waitingReader = none)
    {data reply : Bytes} (howed : owed identity data = some reply) (from_ : UdpSocket)
    (hport : getPort from_ = mdnsPort) (second : Bytes) (from₂ : UdpSocket) :
    ∃ s₁, s.step (.dataReceived data from_) = some s₁ ∧
      s₁.step (.dataReceived second from₂) = some s₁ ∧
      s₁.Fits (.sendStreamAvailable ⟨[], reply.length, Nat.zero_le _⟩) ∧
      s₁.step (.sendStreamAvailable ⟨[], reply.length, Nat.zero_le _⟩) = some { s with log := s.log ++
        [.accept data, .requestSendStream reply.length (makeUdpSocket mdnsMulticastAddress mdnsPort),
          .answer data reply, .release data] } := by
  obtain ⟨s₁, hst, hfits, hgrant⟩ := h.answers hidle howed from_ hport
  obtain ⟨r, hr⟩ := (Reachable.step (e := .dataReceived data from_) h trivial hst).inv.waiting hfits.1
  exact ⟨s₁, hst, step_dataReceived_of_ignored s₁ second (.inr (by simp [hr])), hfits, hgrant⟩

/-- The A query for `i.local` to the idle identity `i.s.t.local`, then the same query again
    from the mDNS port before the grant. -/
theorem drops_second_a_query :
    Reachable hostIdentity (init hostIdentity) ∧
    (init hostIdentity).server.waitingReader = none ∧
    owed hostIdentity aQuery = some aReply ∧
    getPort (makeUdpSocket mdnsMulticastAddress mdnsPort) = mdnsPort ∧
    ∃ s₁, (init hostIdentity).step
        (.dataReceived aQuery (makeUdpSocket mdnsMulticastAddress mdnsPort)) = some s₁ ∧
      s₁.step (.dataReceived aQuery (makeUdpSocket mdnsMulticastAddress mdnsPort)) = some s₁ ∧
      s₁.Fits (.sendStreamAvailable ⟨[], List.length aReply, Nat.zero_le _⟩) ∧
      s₁.step (.sendStreamAvailable ⟨[], List.length aReply, Nat.zero_le _⟩) =
        some { init hostIdentity with
          log := (init hostIdentity).log ++
            [.accept aQuery,
             .requestSendStream (List.length aReply)
               (makeUdpSocket mdnsMulticastAddress mdnsPort),
             .answer aQuery aReply,
             .release aQuery] } :=
  have howed : owed hostIdentity aQuery = some aReply := rfl
  ⟨.init, rfl, howed, rfl, Reachable.drops_second .init rfl howed
    (makeUdpSocket mdnsMulticastAddress mdnsPort) rfl _ (makeUdpSocket mdnsMulticastAddress mdnsPort)⟩

end Exchange

end Bonjour
