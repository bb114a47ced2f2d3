import Bonjour.QuestionParser

/-!
# What `CreateAnswer` computes

The reading of a query stated over the datagram rather than over the parser (§4.3): the
header, the questions in wire order, and the plan, that is, every question's answer
operation followed by every question's additional records. `expected` is what
`CreateAnswer` should leave in `answer`, and the parser is proved to refine it.
-/

namespace Bonjour

open Answer (Op)

namespace QuestionParser

variable {A : Type}

-- ---------------------------------------------------------------------------
-- The query, read from the datagram
-- ---------------------------------------------------------------------------

/-- The header of `d`, when its twelve bytes are there. -/
def headerAt (d : Bytes) : Option DnsRecordHeader :=
  if 12 ≤ d.length then some (DnsRecordHeader.ofBytes d) else none

/-- The footer at `pos`, when its four bytes are there. -/
def footerAt (d : Bytes) (pos : Nat) : Option DnsQuestionFooter :=
  if pos + 4 ≤ d.length then some (DnsQuestionFooter.ofBytes (d.drop pos)) else none

/-- A question as read off the wire: its name, and its footer when it can be read. -/
structure Question where
  name : List Label
  footer : Option DnsQuestionFooter
  deriving DecidableEq

/-- A question whose footer was read and passes `IsFooterValid`. -/
def Question.footerOk (q : Question) : Bool := q.footer.any isFooterValid

section Decoder

variable (decode : Bytes → Nat → Option (List Label × Nat))

/-- The question at `pos` and where the next one starts; `none` when its name cannot
    be decoded. -/
def questionAt (d : Bytes) (pos : Nat) : Option (Question × Nat) :=
  (decode d pos).map fun (name, next) => (⟨name, footerAt d next⟩, next + 4)

/-- The questions the parser reads from `pos` on: at most `n`, in wire order, up to
    and including the first whose footer is missing or invalid; `none` when the name
    of one of them cannot be decoded. -/
def questionsAt (d : Bytes) : Nat → Nat → Option (List Question)
  | 0, _ => some []
  | n + 1, pos => (questionAt decode d pos).bind fun (q, next) =>
    if q.footerOk then (questionsAt d n next).map (q :: ·) else some [q]

/-- The offset of the question `k` places after the one at `pos`, when the names
    before it can be decoded. -/
def questionOffset (d : Bytes) : Nat → Nat → Option Nat
  | 0, pos => some pos
  | k + 1, pos => (questionAt decode d pos).bind fun (_, next) => questionOffset d k next

/-- The `n` questions from `pos` on, when every name can be decoded and every footer
    read and valid. -/
def validQuestionsAt (d : Bytes) (n pos : Nat) : Option (List Question) :=
  (questionsAt decode d n pos).filter (·.all (·.footerOk))

end Decoder

section Server

variable (server : BonjourServer)

/-- The answer operation a question asks for: its type's, if the question is for
    this responder. -/
def Question.answerOps (q : Question) : List Op :=
  match q.footer with
  | some f =>
    if isQueryForMe server f (joinLabels q.name) then (DnsType.ofValue? f.type).toList.map answerOp
    else []
  | none => []

/-- The additional records a question brings, if it is for this responder. -/
def Question.additionalOps (q : Question) : List Op :=
  match q.footer with
  | some f =>
    if isQueryForMe server f (joinLabels q.name) then QuestionParser.additionalOps (DnsType.ofValue? f.type)
    else []
  | none => []

/-- The operations a query asks for: every question's answer operation, in wire order,
    then every question's additional records, in wire order. -/
def plan (qs : List Question) : List Op :=
  (qs.map (·.answerOps server)).flatten ++ (qs.map (·.additionalOps server)).flatten

variable (decode : Bytes → Nat → Option (List Label × Nat))

/-- What `CreateAnswer` should leave in `answer`: the query id and the planned
    operations, unless the header cannot be read or is invalid, a question's name
    cannot be decoded, or a question's footer cannot be read or is invalid. -/
def expected (d : Bytes) : Option (UInt16 × List Op) :=
  match headerAt d with
  | none => none
  | some h =>
    if isValidHeader h then
      (validQuestionsAt decode d h.questionsCount.toNat 12).map fun qs => (h.id, plan server qs)
    else none

end Server

theorem expected_eq_some {server : BonjourServer} {decode : Bytes → Nat → Option (List Label × Nat)}
    {d : Bytes} {queryId : UInt16} {ops : List Op} (h : expected server decode d = some (queryId, ops)) :
    ∃ qs, validQuestionsAt decode d (DnsRecordHeader.ofBytes d).questionsCount.toNat 12 = some qs ∧
      queryId = (DnsRecordHeader.ofBytes d).id ∧ ops = plan server qs := by
  by_cases h12 : 12 ≤ d.length
  · simp only [expected, headerAt, h12, if_true] at h
    split_ifs at h
    obtain ⟨qs, hqs, he⟩ := Option.map_eq_some'.mp h
    cases he
    exact ⟨qs, hqs, rfl, rfl⟩
  · simp [expected, headerAt, h12] at h

theorem expected_of_valid {server : BonjourServer} {decode : Bytes → Nat → Option (List Label × Nat)}
    {d : Bytes} {h : DnsRecordHeader} {qs : List Question} (hh : headerAt d = some h)
    (hv : isValidHeader h = true) (hqs : validQuestionsAt decode d h.questionsCount.toNat 12 = some qs) :
    expected server decode d = some (h.id, plan server qs) := by
  simp [expected, hh, hv, hqs]

-- ---------------------------------------------------------------------------
-- The two sections of a plan
-- ---------------------------------------------------------------------------

theorem answerOp_isAnswer (t : DnsType) : (answerOp t).isAnswer = true := by
  cases t <;> rfl

theorem additionalOps_isAnswer (t : Option DnsType) : ∀ op ∈ additionalOps t, op.isAnswer = false := by
  rcases t with _ | ⟨_ | _ | _ | _ | _⟩ <;> decide

theorem additionalOps_length_le (t : Option DnsType) : (additionalOps t).length ≤ 4 := by
  rcases t with _ | ⟨_ | _ | _ | _ | _⟩ <;> decide

section Sections

variable (server : BonjourServer)

theorem Question.answerOps_isAnswer (q : Question) : ∀ op ∈ q.answerOps server, op.isAnswer = true := by
  intro op hop
  simp only [Question.answerOps] at hop
  split at hop
  · split_ifs at hop
    · obtain ⟨t, -, rfl⟩ := List.mem_map.mp hop
      exact answerOp_isAnswer t
    · cases hop
  · cases hop

theorem Question.additionalOps_isAnswer (q : Question) :
    ∀ op ∈ q.additionalOps server, op.isAnswer = false := by
  intro op hop
  simp only [Question.additionalOps] at hop
  split at hop
  · split_ifs at hop
    · exact QuestionParser.additionalOps_isAnswer _ op hop
    · cases hop
  · cases hop

theorem Question.answerOps_length_le (q : Question) : (q.answerOps server).length ≤ 1 := by
  simp only [Question.answerOps]
  split
  · split_ifs
    · cases DnsType.ofValue? _ <;> simp
    · simp
  · simp

theorem Question.additionalOps_length_le (q : Question) : (q.additionalOps server).length ≤ 4 := by
  simp only [Question.additionalOps]
  split
  · split_ifs
    · exact QuestionParser.additionalOps_length_le _
    · simp
  · simp

/-- The answer operations of a query, one per question at most. -/
theorem answerOps_flatten_length_le (qs : List Question) :
    (qs.map (·.answerOps server)).flatten.length ≤ qs.length := by
  induction qs with
  | nil => rfl
  | cons q qs ih =>
    have := q.answerOps_length_le server
    simp only [List.map_cons, List.flatten_cons, List.length_append, List.length_cons]
    omega

/-- The additional records of a query, four per question at most. -/
theorem additionalOps_flatten_length_le (qs : List Question) :
    (qs.map (·.additionalOps server)).flatten.length ≤ 4 * qs.length := by
  induction qs with
  | nil => rfl
  | cons q qs ih =>
    have := q.additionalOps_length_le server
    simp only [List.map_cons, List.flatten_cons, List.length_append, List.length_cons]
    omega

theorem answerOps_flatten_isAnswer (qs : List Question) :
    ∀ op ∈ (qs.map (·.answerOps server)).flatten, op.isAnswer = true := by
  simp only [List.mem_flatten, List.mem_map]
  rintro op ⟨_, ⟨q, -, rfl⟩, hop⟩
  exact q.answerOps_isAnswer server op hop

theorem additionalOps_flatten_isAnswer (qs : List Question) :
    ∀ op ∈ (qs.map (·.additionalOps server)).flatten, op.isAnswer = false := by
  simp only [List.mem_flatten, List.mem_map]
  rintro op ⟨_, ⟨q, -, rfl⟩, hop⟩
  exact q.additionalOps_isAnswer server op hop

/-- A plan counts in the answer section the records of its answer operations. -/
theorem answerCount_plan (qs : List Question) :
    Answer.answerCount server (plan server qs) =
      ((qs.map (·.answerOps server)).flatten.filterMap (Answer.record server)).length := by
  have hans := answerOps_flatten_isAnswer server qs
  have hadd := additionalOps_flatten_isAnswer server qs
  have hsum := Answer.answerCount_add_additionalCount server (qs.map (·.answerOps server)).flatten
  rw [plan, Answer.answerCount_append, Answer.answerCount_eq_zero server hadd,
    ← hsum, Answer.additionalCount_eq_zero server hans]

/-- A plan counts in the additional section the records of its additional operations. -/
theorem additionalCount_plan (qs : List Question) :
    Answer.additionalCount server (plan server qs) =
      ((qs.map (·.additionalOps server)).flatten.filterMap (Answer.record server)).length := by
  have hans := answerOps_flatten_isAnswer server qs
  have hadd := additionalOps_flatten_isAnswer server qs
  have hsum := Answer.answerCount_add_additionalCount server (qs.map (·.additionalOps server)).flatten
  rw [plan, Answer.additionalCount_append, Answer.additionalCount_eq_zero server hans,
    ← hsum, Answer.answerCount_eq_zero server hadd, Nat.zero_add]

end Sections

-- ---------------------------------------------------------------------------
-- One question
-- ---------------------------------------------------------------------------

/-- Where `IsQueryForMe` holds, the footer's type is one of the five `switch` cases. -/
theorem ofValue?_isSome_of_isQueryForMe {server : BonjourServer} {f : DnsQuestionFooter}
    {hostname : Bytes} (h : isQueryForMe server f hostname = true) :
    (DnsType.ofValue? f.type).isSome := by
  simp only [isQueryForMe, Bool.or_eq_true, Bool.and_eq_true, beq_iff_eq] at h
  rcases h with (((⟨h, -⟩ | ⟨h, -⟩) | ⟨h, -⟩) | ⟨h, -⟩) | ⟨h, -⟩ <;> simp [h]

theorem peek_of_le {r : Reader} {n : Nat} (h : r.offset + n ≤ r.data.length) :
    r.peek n = some ((r.data.drop r.offset).take n) := if_pos h

theorem peek_of_not_le {r : Reader} {n : Nat} (h : ¬r.offset + n ≤ r.data.length) :
    r.peek n = none := if_neg h

section Run

variable (server : BonjourServer) (decode : Bytes → Nat → Option (List Label × Nat))
  (perform : Op → A → A)

/-- Spec of `ReadQuestion` on a valid parser: it never aborts; it keeps the header and
    the datagram; when the question's footer passes it moves to the next question
    and performs the question's answer operation, otherwise it marks the parser
    invalid. -/
theorem readQuestion_spec (p : QuestionParser A) (hv : p.valid = true) (hf : p.failed = false) :
    ∃ p', readQuestion server decode perform p = some p' ∧ p'.header = p.header ∧
      p'.reader.data = p.reader.data ∧
      match questionAt decode p.reader.data p.reader.offset with
      | some (q, next) =>
        if q.footerOk then p'.valid = true ∧ p'.failed = false ∧ p'.reader.offset = next ∧
          p'.answer = p.answer.map (runOps perform (q.answerOps server))
        else p'.valid = false
      | none => p'.valid = false := by
  rcases p with ⟨⟨d, pos⟩, failed, header, footer, valid, answer, hostname⟩
  subst hv hf
  simp only [readQuestion, questionAt]
  cases hd : decode d pos with
  | none =>
    rw [readHostname_of_none decode hd, readFooter_of_not_le (by simp)]
    simp
  | some r =>
    obtain ⟨parts, next⟩ := r
    rw [readHostname_of_some decode hd]
    by_cases hn : next + 4 ≤ d.length
    · rw [readFooter_of_le (by simpa using hn)]
      simp only [footerAt, hn, if_true, Option.map_some', Question.footerOk, Option.any_some]
      by_cases hfv : isFooterValid (DnsQuestionFooter.ofBytes (d.drop next))
      · by_cases hq : isQueryForMe server (DnsQuestionFooter.ofBytes (d.drop next)) (joinLabels parts)
        · obtain ⟨t, ht⟩ := Option.isSome_iff_exists.mp (ofValue?_isSome_of_isQueryForMe hq)
          simp [hfv, hq, ht, performAll, Question.answerOps, runOps]
        · simp [hfv, hq, Question.answerOps]
      · simp [hfv]
    · rw [readFooter_of_not_le (by simpa using hn)]
      simp [footerAt, hn, Question.footerOk]

end Run

-- ---------------------------------------------------------------------------
-- The loops
-- ---------------------------------------------------------------------------

section Loops

variable (decode : Bytes → Nat → Option (List Label × Nat))

/-- Reading one more question: it must be readable and valid, and so must the rest. -/
theorem validQuestionsAt_succ (d : Bytes) (n pos : Nat) :
    validQuestionsAt decode d (n + 1) pos =
      match questionAt decode d pos with
      | some (q, next) => if q.footerOk then (validQuestionsAt decode d n next).map (q :: ·) else none
      | none => none := by
  simp only [validQuestionsAt, questionsAt]
  cases questionAt decode d pos with
  | none => rfl
  | some r =>
    obtain ⟨q, next⟩ := r
    by_cases hq : q.footerOk
    · simp only [Option.some_bind, hq, if_true]
      generalize questionsAt decode d n next = qs
      cases qs <;> simp [Option.filter_some, hq]
    · simp [Option.filter_some, hq]

theorem validQuestionsAt_length {d : Bytes} {n pos : Nat} {qs : List Question}
    (h : validQuestionsAt decode d n pos = some qs) : qs.length = n := by
  induction n generalizing pos qs with
  | zero => simp [validQuestionsAt, questionsAt, Option.filter] at h; simp [← h]
  | succ n ih =>
    rw [validQuestionsAt_succ] at h
    split at h
    · split at h
      · obtain ⟨qs', h', rfl⟩ := Option.map_eq_some'.mp h
        simp [ih h']
      · cases h
    · cases h

/-- A name that cannot be decoded, at any question before the last, leaves no valid
    question list, whatever the questions before it are. -/
theorem validQuestionsAt_of_questionOffset {d : Bytes} {k n pos q : Nat} (hk : k < n)
    (hq : questionOffset decode d k pos = some q) (hdec : decode d q = none) :
    validQuestionsAt decode d n pos = none := by
  induction k generalizing n pos with
  | zero =>
    obtain ⟨n, rfl⟩ : ∃ m, n = m + 1 := ⟨n - 1, by omega⟩
    cases hq
    simp [validQuestionsAt_succ, questionAt, hdec]
  | succ k ih =>
    obtain ⟨n, rfl⟩ : ∃ m, n = m + 1 := ⟨n - 1, by omega⟩
    simp only [questionOffset, Option.bind_eq_some] at hq
    obtain ⟨⟨q', next⟩, hq', hrest⟩ := hq
    have hnone := ih (show k < n by omega) hrest
    rw [validQuestionsAt_succ, hq']
    cases q'.footerOk <;> simp [hnone]

variable (server : BonjourServer) (perform : Op → A → A)

theorem readQuestions_of_invalid (n : Nat) {p : QuestionParser A} (h : p.valid = false) :
    readQuestions server decode perform n p = some p := by
  cases n <;> simp [readQuestions, h]

/-- Spec of the first loop: when the questions are all readable and valid it ends
    valid, having performed their answer operations in order; otherwise it ends
    invalid. -/
theorem readQuestions_spec (n : Nat) (p : QuestionParser A) (hv : p.valid = true)
    (hf : p.failed = false) :
    ∃ p', readQuestions server decode perform n p = some p' ∧ p'.header = p.header ∧
      p'.reader.data = p.reader.data ∧
      match validQuestionsAt decode p.reader.data n p.reader.offset with
      | some qs => p'.valid = true ∧
          p'.answer = p.answer.map (runOps perform ((qs.map (·.answerOps server)).flatten))
      | none => p'.valid = false := by
  induction n generalizing p with
  | zero => exact ⟨p, rfl, rfl, rfl, by simp [validQuestionsAt, questionsAt, Option.filter, hv]⟩
  | succ n ih =>
    obtain ⟨p₁, h₁, hh₁, hd₁, hq₁⟩ := readQuestion_spec server decode perform p hv hf
    simp only [readQuestions, hv, if_true, h₁, Option.some_bind, validQuestionsAt_succ]
    cases hq : questionAt decode p.reader.data p.reader.offset with
    | none =>
      simp only [hq] at hq₁
      exact ⟨p₁, readQuestions_of_invalid decode server perform n hq₁, hh₁, hd₁, hq₁⟩
    | some r =>
      obtain ⟨q, next⟩ := r
      simp only [hq] at hq₁
      by_cases hok : q.footerOk
      · simp only [hok, if_true] at hq₁ ⊢
        obtain ⟨hv₁, hf₁, ho₁, ha₁⟩ := hq₁
        obtain ⟨p₂, h₂, hh₂, hd₂, hq₂⟩ := ih p₁ hv₁ hf₁
        refine ⟨p₂, h₂, hh₂.trans hh₁, hd₂.trans hd₁, ?_⟩
        rw [hd₁, ho₁] at hq₂
        cases hqs : validQuestionsAt decode p.reader.data n next with
        | none => simpa [hqs] using hq₂
        | some qs =>
          simp only [hqs, ha₁, Option.map_map] at hq₂ ⊢
          exact ⟨hq₂.1, by rw [hq₂.2]; congr 1; funext a; simp [Function.comp]⟩
      · simp only [hok, if_false] at hq₁ ⊢
        exact ⟨p₁, readQuestions_of_invalid decode server perform n hq₁, hh₁, hd₁, hq₁⟩

/-- Spec of `ReadQuestionForAdditionalRecords` on a question that is readable and
    valid: it moves to the next question and adds the question's additional records. -/
theorem readQuestionForAdditionalRecords_spec (p : QuestionParser A) {q : Question} {next : Nat}
    (hq : questionAt decode p.reader.data p.reader.offset = some (q, next)) (hok : q.footerOk = true) :
    let p' := readQuestionForAdditionalRecords server decode perform p
    p'.valid = p.valid ∧ p'.header = p.header ∧ p'.reader.data = p.reader.data ∧
      p'.reader.offset = next ∧ p'.answer = p.answer.map (runOps perform (q.additionalOps server)) := by
  rcases p with ⟨⟨d, pos⟩, failed, header, footer, valid, answer, hostname⟩
  simp only [questionAt] at hq
  cases hd : decode d pos with
  | none => simp [hd] at hq
  | some r =>
    obtain ⟨parts, next'⟩ := r
    simp only [hd, Option.map_some', Option.some.injEq, Prod.mk.injEq] at hq
    obtain ⟨rfl, rfl⟩ := hq
    have hn : next' + 4 ≤ d.length := by
      by_contra hn; simp [Question.footerOk, footerAt, hn] at hok
    simp only [readQuestionForAdditionalRecords]
    rw [readHostname_of_some decode hd, readFooter_of_le (by simpa using hn)]
    by_cases hm : isQueryForMe server (DnsQuestionFooter.ofBytes (d.drop next')) (joinLabels parts) <;>
      simp [hm, hn, performAll, Question.additionalOps, footerAt]

theorem readQuestionsForAdditionalRecords_of_invalid (n : Nat) {p : QuestionParser A}
    (h : p.valid = false) : readQuestionsForAdditionalRecords server decode perform n p = p := by
  cases n <;> simp [readQuestionsForAdditionalRecords, h]

/-- Spec of the second loop, over questions already found readable and valid: it stays
    valid and adds their additional records in order. -/
theorem readQuestionsForAdditionalRecords_spec (qs : List Question) (p : QuestionParser A)
    (hv : p.valid = true) (hqs : validQuestionsAt decode p.reader.data qs.length p.reader.offset = some qs) :
    let p' := readQuestionsForAdditionalRecords server decode perform qs.length p
    p'.valid = true ∧ p'.reader.data = p.reader.data ∧
      p'.answer = p.answer.map (runOps perform ((qs.map (·.additionalOps server)).flatten)) := by
  induction qs generalizing p with
  | nil => simp [readQuestionsForAdditionalRecords, hv]
  | cons q qs ih =>
    rw [List.length_cons, validQuestionsAt_succ] at hqs
    cases hq : questionAt decode p.reader.data p.reader.offset with
    | none => simp [hq] at hqs
    | some r =>
      obtain ⟨q', next⟩ := r
      simp only [hq] at hqs
      by_cases hok : q'.footerOk
      · simp only [hok, if_true, Option.map_eq_some', List.cons.injEq] at hqs
        obtain ⟨_, hrest, rfl, rfl⟩ := hqs
        obtain ⟨hv₁, hh₁, hd₁, ho₁, ha₁⟩ :=
          readQuestionForAdditionalRecords_spec decode server perform p hq hok
        obtain ⟨hv₂, hd₂, ha₂⟩ := ih _ (hv₁.trans hv) (by rw [hd₁, ho₁]; exact hrest)
        simp only [readQuestionsForAdditionalRecords, hv, if_true]
        refine ⟨hv₂, hd₂.trans hd₁, ?_⟩
        rw [ha₂, ha₁, Option.map_map]
        congr 1; funext a; simp [Function.comp]
      · simp [hok] at hqs

end Loops

-- ---------------------------------------------------------------------------
-- `CreateAnswer`
-- ---------------------------------------------------------------------------

section Create

variable (server : BonjourServer) (decode : Bytes → Nat → Option (List Label × Nat))
  (perform : Op → A → A)

/-- `CreateAnswer` refines `expected`: on a reader at the start of any datagram it never
    aborts, and it leaves in `answer` the planned operations performed on the answer
    made with the query id, or no answer when `expected` has none. -/
theorem createAnswer_answer (emplace : UInt16 → A) (d : Bytes) :
    ∃ p, createAnswer server decode perform emplace (init ⟨d, 0⟩) = some p ∧ p.reader.data = d ∧
      p.answer = (expected server decode d).map fun e => runOps perform e.2 (emplace e.1) := by
  rw [createAnswer]
  by_cases h12 : 12 ≤ d.length
  · simp only [readHeader_init h12, expected, headerAt, h12, if_true, isValidQuestion,
      Bool.not_false, Bool.true_and, Reader.constructSaveMarker]
    generalize DnsRecordHeader.ofBytes d = h
    cases hvh : isValidHeader h
    · simp
    obtain ⟨p₁, h₁, -, hd₁, hq₁⟩ := readQuestions_spec decode server perform h.questionsCount.toNat
      ⟨⟨d, 12⟩, false, h, ⟨0, 0⟩, true, some (emplace h.id), []⟩ rfl rfl
    simp only [Bool.not_true, Bool.false_eq_true, if_false, if_true, h₁, Option.map_some',
      Option.some.injEq, exists_eq_left']
    generalize h.questionsCount.toNat = n at hq₁ ⊢
    cases hqs : validQuestionsAt decode d n 12 with
    | none =>
      simp only [hqs] at hq₁
      have hv : ({ p₁ with reader := p₁.reader.rewind 12 } : QuestionParser A).valid = false := hq₁
      rw [readQuestionsForAdditionalRecords_of_invalid decode server perform n hv]
      simp [hq₁, hd₁]
    | some qs =>
      simp only [hqs] at hq₁
      obtain ⟨hv₁, ha₁⟩ := hq₁
      obtain rfl : qs.length = n := validQuestionsAt_length decode hqs
      obtain ⟨hv₂, hd₂, ha₂⟩ := readQuestionsForAdditionalRecords_spec decode server perform qs
        { p₁ with reader := p₁.reader.rewind 12 } hv₁ (by simpa [hd₁] using hqs)
      simp only [hv₂, Bool.not_true, Bool.false_eq_true, if_false]
      refine ⟨by simpa [hd₁] using hd₂, ?_⟩
      rw [ha₂, ha₁]
      simp [plan]
  · simp [readHeader_init_of_lt (show d.length < 12 by omega), isValidQuestion, expected, headerAt, h12]

/-- `CreateAnswer` returns on every reader, wherever it starts. -/
theorem createAnswer_init_isSome (emplace : UInt16 → A) (r : Reader) :
    (createAnswer server decode perform emplace (init r)).isSome := by
  have hv : ((init r : QuestionParser A).readHeader).valid = true := by
    simp only [readHeader, init]; split <;> rfl
  rw [createAnswer]
  split
  · rfl
  · rename_i hvq
    obtain ⟨hf, -⟩ : (init r : QuestionParser A).readHeader.failed = false ∧ _ := by
      simpa [isValidQuestion] using hvq
    obtain ⟨p', hp', -⟩ := readQuestions_spec decode server perform
      (init r : QuestionParser A).readHeader.header.questionsCount.toNat
      { (init r : QuestionParser A).readHeader with
        answer := some (emplace (init r : QuestionParser A).readHeader.header.id) } hv hf
    simp [hp']

/-- Neither pass reaches the `std::abort()` of `ReadQuestion`: every type `IsQueryForMe`
    accepts has its case in the `switch`, and `CreateAnswer` returns on every reader. -/
theorem createAnswer_isSome (emplace : UInt16 → A) :
    (∀ f hostname, isQueryForMe server f hostname = true → (DnsType.ofValue? f.type).isSome) ∧
    ∀ r : Reader, (createAnswer server decode perform emplace (init r)).isSome :=
  ⟨fun _ _ h => ofValue?_isSome_of_isQueryForMe h, createAnswer_init_isSome server decode perform emplace⟩

end Create

section Malformed

variable (server : BonjourServer) (perform : Op → A → A)

/-- A question among the first `qdcount` whose name is malformed leaves no answer, how
    many valid questions come before it notwithstanding. -/
theorem createAnswer_answer_of_malformed (emplace : UInt16 → A) (d : Bytes) (h : DnsRecordHeader)
    (hh : headerAt d = some h) {k pos : Nat} (hk : k < h.questionsCount.toNat)
    (hpos : questionOffset decodeName d k 12 = some pos) (hmal : Malformed d pos) :
    ∃ p, createAnswer server decodeName perform emplace (init ⟨d, 0⟩) = some p ∧ p.answer = none := by
  obtain ⟨p, hp, -, ha⟩ := createAnswer_answer server decodeName perform emplace d
  refine ⟨p, hp, ?_⟩
  simp [ha, expected, hh,
    validQuestionsAt_of_questionOffset decodeName hk hpos (decodeName_of_malformed hmal)]

/-- Two questions: the A question for `i.local`, which `i.s.t.local` at `10.0.0.1` answers,
    then a name whose first label runs past the end of the datagram. -/
theorem createAnswer_answer_of_malformed_second :
    headerAt [0, 7, 0, 0, 0, 2, 0, 0, 0, 0, 0, 0, 1, 105, 5, 108, 111, 99, 97, 108, 0, 0, 1, 0, 1, 5, 97] =
      some ⟨7, 0, 2, 0, 0, 0⟩ ∧
    1 < (⟨7, 0, 2, 0, 0, 0⟩ : DnsRecordHeader).questionsCount.toNat ∧
    questionOffset decodeName [0, 7, 0, 0, 0, 2, 0, 0, 0, 0, 0, 0, 1, 105, 5, 108, 111, 99, 97, 108, 0, 0, 1, 0, 1, 5, 97] 1 12 =
      some 25 ∧
    Malformed [0, 7, 0, 0, 0, 2, 0, 0, 0, 0, 0, 0, 1, 105, 5, 108, 111, 99, 97, 108, 0, 0, 1, 0, 1, 5, 97] 25 ∧
    ∃ p, createAnswer hostIdentity decodeName (fun _ _ => ()) (fun _ => ())
      (init ⟨[0, 7, 0, 0, 0, 2, 0, 0, 0, 0, 0, 0, 1, 105, 5, 108, 111, 99, 97, 108, 0, 0, 1, 0, 1, 5, 97], 0⟩) = some p ∧
      p.answer = none := by
  have hh : headerAt [0, 7, 0, 0, 0, 2, 0, 0, 0, 0, 0, 0, 1, 105, 5, 108, 111, 99, 97, 108, 0, 0, 1, 0, 1, 5, 97] =
      some ⟨7, 0, 2, 0, 0, 0⟩ := by decide
  have hmal : Malformed [0, 7, 0, 0, 0, 2, 0, 0, 0, 0, 0, 0, 1, 105, 5, 108, 111, 99, 97, 108, 0, 0, 1, 0, 1, 5, 97] 25 :=
    .inl (.here rfl (by decide) (by decide) (by decide))
  have hpos : questionOffset decodeName [0, 7, 0, 0, 0, 2, 0, 0, 0, 0, 0, 0, 1, 105, 5, 108, 111, 99, 97, 108, 0, 0, 1, 0, 1, 5, 97] 1 12 =
      some 25 := rfl
  exact ⟨hh, by decide, hpos, hmal,
    createAnswer_answer_of_malformed _ _ _ _ _ hh (by decide) hpos hmal⟩

end Malformed

end QuestionParser

end Bonjour
