import Bonjour.Delivery
import Bonjour.Resolution

/-!
# Responders sharing the multicast group

Every responder joins the mDNS group and sends its replies to it, so every reply reaches
every member, its sender included, along with the queriers' queries. A run of the group
interleaves, in any order, a querier sending a query, the delivery of any datagram on the
wire to any member, and the grant of a buffer to a member for its pending request.
-/

namespace Bonjour

open QuestionParser Exchange

/-- `n` responders on the multicast group, and the queries the queriers sent to it. -/
structure Group (n : Nat) where
  members : Fin n → Exchange
  queries : List Bytes

namespace Group

variable {n : Nat}

/-- The group before any datagram: every member idle, with its identity. -/
def init (identities : Fin n → BonjourServer) : Group n := ⟨fun i => Exchange.init (identities i), []⟩

/-- A datagram on the wire: a querier's query, or a reply a member sent. -/
def OnWire (g : Group n) (data : Bytes) : Prop :=
  data ∈ g.queries ∨ ∃ i answered, Action.answer answered data ∈ (g.members i).log

/-- The states of every run of the group. -/
inductive Reachable (identities : Fin n → BonjourServer) : Group n → Prop
  | init : Reachable identities (init identities)
  | query {g : Group n} (data : Bytes) : Reachable identities g →
      Reachable identities { g with queries := g.queries ++ [data] }
  | deliver {g : Group n} {i : Fin n} {s' : Exchange} {data : Bytes} {from_ : UdpSocket} :
      Reachable identities g → g.OnWire data → (g.members i).step (.dataReceived data from_) = some s' →
      Reachable identities { g with members := Function.update g.members i s' }
  | grant {g : Group n} {i : Fin n} {s' : Exchange} {writer : SendBuffer} :
      Reachable identities g → (g.members i).Fits (.sendStreamAvailable writer) →
      (g.members i).step (.sendStreamAvailable writer) = some s' →
      Reachable identities { g with members := Function.update g.members i s' }

-- ---------------------------------------------------------------------------
-- One member
-- ---------------------------------------------------------------------------

/-- What holds of a member between events: its run is a run of one responder over a
    transport that grants what is asked; the datagram it waits to answer is a query; and
    every reply it sent is its identity's response to a query. -/
structure MemberInv (identity : BonjourServer) (queries : List Bytes) (s : Exchange) : Prop where
  served : Served identity s
  waiting : ∀ r, s.server.waitingReader = some r → r.data ∈ queries
  answered : ∀ data reply, Action.answer data reply ∈ s.log →
    data ∈ queries ∧ response identity data = some reply

section Member

variable {identity : BonjourServer} {queries : List Bytes} {s s' : Exchange}

theorem memberInv_init (identity : BonjourServer) (queries : List Bytes) :
    MemberInv identity queries (Exchange.init identity) :=
  ⟨.init, fun _ hr => by simp [Exchange.init] at hr, fun _ _ hans => by simp [Exchange.init] at hans⟩

theorem MemberInv.mono (h : MemberInv identity queries s) (data : Bytes) :
    MemberInv identity (queries ++ [data]) s :=
  ⟨h.served, fun r hr => List.mem_append_left _ (h.waiting r hr),
    fun d reply hans => ⟨List.mem_append_left _ (h.answered d reply hans).1, (h.answered d reply hans).2⟩⟩

/-- A delivery keeps a member's invariant when the datagram, if the member takes it with an
    answer, is a query. -/
theorem MemberInv.deliver (h : MemberInv identity queries s) {data : Bytes} {from_ : UdpSocket}
    (hstep : s.step (.dataReceived data from_) = some s')
    (hquery : ∀ q, dryRun s.server decodeName ⟨data, 0⟩ = some q → hasAnswer q = true → data ∈ queries) :
    MemberInv identity queries s' := by
  have hserved : Served identity s' := .step (e := .dataReceived data from_) h.served trivial hstep
  rcases step_cases (e := .dataReceived data from_) h.served.reachable.inv trivial hstep with
    rfl | ⟨_, _, _, he, -, -, -, rfl⟩ | ⟨_, _, q, he, -, hq, hans, rfl⟩ | ⟨_, _, _, he, -, -, -⟩
  · exact h
  · exact ⟨hserved, fun r hr => by simp at hr, fun d reply hans => h.answered d reply (by simpa using hans)⟩
  · obtain ⟨rfl, rfl⟩ := Event.dataReceived.inj he
    refine ⟨hserved, fun r hr => ?_, fun d reply hans => h.answered d reply (by simpa using hans)⟩
    obtain rfl : ⟨data, 0⟩ = r := Option.some.inj hr
    exact hquery q hq hans
  · cases he

/-- A grant of what is asked keeps a member's invariant: the reply it writes is the
    response to the query it waited to answer. -/
theorem MemberInv.grant (h : MemberInv identity queries s) {writer : SendBuffer}
    (hfits : s.Fits (.sendStreamAvailable writer)) (hstep : s.step (.sendStreamAvailable writer) = some s') :
    MemberInv identity queries s' := by
  refine ⟨.step h.served hfits hstep, fun r hr => ?_, fun d reply hans => ?_⟩
  · rcases step_cases h.served.reachable.inv hfits.enabled hstep with rfl | ⟨_, _, _, he, -⟩ |
      ⟨_, _, _, he, -⟩ | ⟨_, _, _, -, -, -, rfl⟩
    · exact h.waiting r hr
    · cases he
    · cases he
    · simp at hr
  · rcases h.served.answer_of_step hfits hstep hans with hans | ⟨r, hr, rfl, hreply⟩
    · exact h.answered d reply hans
    · exact ⟨h.waiting r hr, hreply⟩

end Member

-- ---------------------------------------------------------------------------
-- The group
-- ---------------------------------------------------------------------------

variable {identities : Fin n → BonjourServer} {g : Group n}

theorem inv_update (hinv : ∀ j, MemberInv (identities j) g.queries (g.members j)) {i : Fin n} {s' : Exchange}
    (hi : MemberInv (identities i) g.queries s') (j : Fin n) :
    MemberInv (identities j) g.queries (Function.update g.members i s' j) := by
  by_cases hj : j = i
  · subst hj; rwa [Function.update_same]
  · rw [Function.update_noteq hj]; exact hinv j

/-- In every state of every run, every member keeps its invariant. -/
theorem Reachable.inv (h : Reachable identities g) :
    ∀ i, MemberInv (identities i) g.queries (g.members i) := by
  induction h with
  | init => exact fun i => memberInv_init (identities i) []
  | query data _ ih => exact fun i => (ih i).mono data
  | @deliver g i s' data from_ _ hwire hstep ih =>
    refine inv_update ih ((ih i).deliver hstep fun q hq hans => ?_)
    rcases hwire with hquery | ⟨j, answered, hreply⟩
    · exact hquery
    · have := hasAnswer_dryRun_response ((ih j).answered answered data hreply).2 (g.members i).server hq
      simp [hans] at this
  | grant _ hfits hstep ih => exact inv_update ih ((ih _).grant hfits hstep)

/-- No reply storms: in every run of the group, however the deliveries of queries and
    replies to the members interleave with the grants, every reply a member sends is its
    own identity's response to a datagram a querier sent. A reply, whoever sent it, is
    never answered. -/
theorem Reachable.replies_answer_queries (h : Reachable identities g) (i : Fin n) {data reply : Bytes}
    (hans : Action.answer data reply ∈ (g.members i).log) :
    data ∈ g.queries ∧ response (identities i) data = some reply :=
  (h.inv i).answered data reply hans

/-- The group can announce only what its members publish: in every run, every record a
    querier reads from a reply a member sent, to a query of at most 16383 questions, is
    one of the records that member publishes, as long as its identity is readable. -/
theorem Reachable.records_published (h : Reachable identities g) (i : Fin n)
    (hs : Answer.Readable (identities i)) {data reply : Bytes}
    (hans : Action.answer data reply ∈ (g.members i).log)
    (hq : (DnsRecordHeader.ofBytes data).questionsCount.toNat ≤ 16383) :
    ∃ hdr rrs, readMessage reply = some (hdr, rrs) ∧ ∀ rr ∈ rrs, rr ∈ Answer.published (identities i) := by
  obtain ⟨-, hr⟩ := (h.inv i).answered data reply hans
  obtain ⟨⟨queryId, ops⟩, he, -⟩ := Option.map_eq_some'.mp hr
  obtain ⟨qs, hqs, rfl, rfl⟩ := expected_eq_some he
  obtain ⟨reply', hdr, hr', hread, -⟩ :=
    readMessage_reply hs he ((validQuestionsAt_length decodeName hqs).symm ▸ hq)
  obtain rfl : reply = reply' := Option.some.inj (hr.symm.trans hr')
  refine ⟨hdr, _, hread, fun rr hrr => ?_⟩
  simp only [List.mem_append, answerRecords, additionalRecords, List.mem_filterMap] at hrr
  rcases hrr with ⟨op, -, hop⟩ | ⟨op, -, hop⟩ <;> exact Answer.typeRecord_mem_published hop

/-- Progress on the group: from every state of every run, a member that waits for no reader
    answers any datagram on the wire that its identity owes a reply. The delivery of the
    datagram from the group and the grant of an empty buffer of the reply's length extend
    the run; they add the exchange's four actions to that member's log and leave the
    queries and every other member as they were. -/
theorem Reachable.answers_query (h : Reachable identities g) (i : Fin n) {data reply : Bytes}
    (hwire : g.OnWire data) (hidle : (g.members i).server.waitingReader = none)
    (howed : owed (identities i) data = some reply) :
    ∃ g', Reachable identities g' ∧ g'.queries = g.queries ∧
      g'.members i = { g.members i with log := (g.members i).log ++
        [.accept data, .requestSendStream reply.length (makeUdpSocket mdnsMulticastAddress mdnsPort),
          .answer data reply, .release data] } ∧
      ∀ j, j ≠ i → g'.members j = g.members j := by
  obtain ⟨s₁, hst, hfits, hgrant⟩ :=
    (h.inv i).served.reachable.answers hidle howed (makeUdpSocket mdnsMulticastAddress mdnsPort) rfl
  have h₁ := Reachable.deliver h hwire hst
  have h₂ := Reachable.grant (i := i) h₁ (by simpa only [Function.update_same]) (by simpa only [Function.update_same])
  refine ⟨_, h₂, rfl, by simp, fun j hj => ?_⟩
  simp [Function.update_noteq hj]

/-- Service discovery over the group: in every run, every reply that a member with a readable
    identity sent to a querier's query of at most 16383 questions it can send reads, for the
    querier, as a response to the query's id. Its answer section holds, question by question,
    the records the member publishes under the question's name, type and class, and is never
    empty; the additional records the questions bring follow. -/
theorem Reachable.discovers (h : Reachable identities g) (i : Fin n) (hs : Answer.Readable (identities i))
    {queryId : UInt16} {questions : List (List Label × DnsQuestionFooter)} (hq : ∀ q ∈ questions, Sendable q)
    (hlen : questions.length ≤ 16383) {reply : Bytes}
    (hans : Action.answer (queryBytes queryId questions) reply ∈ (g.members i).log) :
    ∃ hdr, readMessage reply = some (hdr, questions.flatMap (fun q => Answer.lookup (identities i) q.1 q.2) ++
        additionalRecords (identities i) (questions.map sentQuestion)) ∧
      hdr.id = queryId ∧ hdr.flags = DnsRecordHeader.flagsResponse ∧
      questions.flatMap (fun q => Answer.lookup (identities i) q.1 q.2) ≠ [] := by
  obtain ⟨hreply, hcount⟩ := owed_eq_some_iff.mp ((h.inv i).served.answer_owed hans)
  obtain ⟨reply', hdr, hr, hread, hid, hflags, hlen'⟩ := readMessage_queryBytes hs queryId hq hlen
  obtain rfl : reply = reply' := Option.some.inj (hreply.symm.trans hr)
  refine ⟨hdr, hread, hid, hflags, fun hnil => hcount ?_⟩
  rw [← readMessage_header hread]
  apply UInt16.toNat.inj
  simp [hlen', hnil]

/-- The A query for `i.local` on the wire of the group of the one responder `i.s.t.local`. -/
theorem reachable_a_query :
    Reachable (fun _ : Fin 1 => hostIdentity)
      ⟨fun _ => Exchange.init hostIdentity, [aQuery]⟩ :=
  Reachable.query _ (Reachable.init : Reachable (fun _ : Fin 1 => hostIdentity) _)

theorem answers_query_a_query :
    Reachable (fun _ : Fin 1 => hostIdentity)
      ⟨fun _ => Exchange.init hostIdentity, [aQuery]⟩ ∧
    OnWire ⟨fun _ : Fin 1 => Exchange.init hostIdentity, [aQuery]⟩ aQuery ∧
    (Exchange.init hostIdentity).server.waitingReader = none ∧
    owed hostIdentity aQuery = some aReply ∧
    ∃ g' : Group 1, Reachable (fun _ : Fin 1 => hostIdentity) g' ∧
      g'.queries = [aQuery] ∧
      g'.members 0 = { Exchange.init hostIdentity with
        log := (Exchange.init hostIdentity).log ++
          [.accept aQuery,
           .requestSendStream aReply.length (makeUdpSocket mdnsMulticastAddress mdnsPort),
           .answer aQuery aReply,
           .release aQuery] } ∧
      ∀ j, j ≠ 0 → g'.members j = Exchange.init hostIdentity :=
  ⟨reachable_a_query, .inl (List.mem_singleton_self _), rfl, rfl,
    Reachable.answers_query reachable_a_query 0 (.inl (List.mem_singleton_self _)) rfl rfl⟩

/-- What `hostIdentity` does with `aQuery` and then with its own reply: it answers the
    query, and takes and lets go the reply, which asks nothing. -/
def ownReplyLog : List Action :=
  [.accept aQuery, .requestSendStream 35 (makeUdpSocket mdnsMulticastAddress mdnsPort),
   .answer aQuery aReply, .release aQuery, .accept aReply, .release aReply]

/-- The group of `hostIdentity` alone, once `aQuery` was put on the wire and answered. -/
def ownReplyGroup : Group 1 := ⟨fun _ => ⟨hostIdentity, 0, ownReplyLog⟩, [aQuery]⟩

/-- The responder `i.s.t.local` alone on the group: a querier's A query for `i.local`, its
    delivery, the grant, and the delivery of the reply back to its sender, which lets it go. -/
theorem reachable_own_reply :
    Reachable (fun _ : Fin 1 => hostIdentity) ownReplyGroup := by
  have h1 := Reachable.query aQuery
    (Reachable.init : Reachable (fun _ : Fin 1 => hostIdentity) _)
  have h2 := Reachable.deliver (i := 0) h1 (.inl (List.mem_singleton_self _))
    (show Exchange.step _ (.dataReceived _ (makeUdpSocket mdnsMulticastAddress mdnsPort)) = _ from rfl)
  have h3 := Reachable.grant (i := 0) h2 fits_a_query rfl
  have h4 := Reachable.deliver (i := 0) h3
    (.inr ⟨0, _, List.mem_cons_of_mem _ (List.mem_cons_of_mem _ (List.mem_cons_self _ _))⟩)
    (show Exchange.step _ (.dataReceived _ (makeUdpSocket mdnsMulticastAddress mdnsPort)) = _ from rfl)
  convert h4 using 2
  funext i
  fin_cases i
  rfl

theorem replies_answer_queries_own_reply :
    Reachable (fun _ : Fin 1 => hostIdentity) ownReplyGroup ∧
    Action.answer aQuery aReply ∈ ownReplyLog ∧
    (aQuery : Bytes) ∈ [aQuery] ∧
    response hostIdentity aQuery = some aReply := by
  refine ⟨reachable_own_reply, ?_, Reachable.replies_answer_queries reachable_own_reply 0 ?_⟩ <;>
    exact List.mem_cons_of_mem _ (List.mem_cons_of_mem _ (List.mem_cons_self _ _))

theorem records_published_own_reply :
    Reachable (fun _ : Fin 1 => hostIdentity) ownReplyGroup ∧
    Answer.Readable hostIdentity ∧
    Action.answer aQuery aReply ∈ ownReplyLog ∧
    (DnsRecordHeader.ofBytes aQuery).questionsCount.toNat ≤ 16383 ∧
    ∃ hdr rrs, readMessage aReply = some (hdr, rrs) ∧
      ∀ rr ∈ rrs, rr ∈ Answer.published hostIdentity := by
  have hans : Action.answer aQuery aReply ∈ ownReplyLog :=
    List.mem_cons_of_mem _ (List.mem_cons_of_mem _ (List.mem_cons_self _ _))
  exact ⟨reachable_own_reply, readable_a_query, hans, by decide,
    Reachable.records_published reachable_own_reply 0 readable_a_query hans (by decide)⟩

theorem discovers_own_reply :
    Reachable (fun _ : Fin 1 => hostIdentity) ownReplyGroup ∧
    Answer.Readable hostIdentity ∧
    (∀ q ∈ aQuestions, Sendable q) ∧ aQuestions.length ≤ 16383 ∧
    Action.answer (queryBytes 7 aQuestions) aReply ∈ ownReplyLog ∧
    ∃ hdr, readMessage aReply =
      some (hdr, aQuestions.flatMap (fun q => Answer.lookup hostIdentity q.1 q.2) ++
        additionalRecords hostIdentity (aQuestions.map sentQuestion)) ∧
      hdr.id = 7 ∧ hdr.flags = DnsRecordHeader.flagsResponse ∧
      aQuestions.flatMap (fun q => Answer.lookup hostIdentity q.1 q.2) ≠ [] := by
  have hans : Action.answer (queryBytes 7 aQuestions) aReply ∈ ownReplyLog :=
    List.mem_cons_of_mem _ (List.mem_cons_of_mem _ (List.mem_cons_self _ _))
  exact ⟨reachable_own_reply, readable_a_query, sendable_a_query, by decide, hans,
    Reachable.discovers reachable_own_reply 0 readable_a_query sendable_a_query (by decide) hans⟩

end Group

end Bonjour
