import Bonjour.Wire

/-!
# Host names

The name codec of `services/network/Dns.cpp`, which is not among the sources, so each
definition here is modelled from the spec: labels after a one-byte length, ended by a zero
label or a compression pointer (§3, §6); a decoder that follows at most one pointer and
rejects labels over 63 bytes and names over 255 (§4.1); and a matcher that compares the
parts of a dotted name label by label (§4.2).
-/

namespace Bonjour

/-- A label of a DNS name. -/
abbrev Label := Bytes

/-- `'.'`. -/
def dot : UInt8 := 46

/-- The label `"local"`. -/
def localLabel : Label := [0x6c, 0x6f, 0x63, 0x61, 0x6c]

-- ---------------------------------------------------------------------------
-- Encoding
-- ---------------------------------------------------------------------------

/-- Modelled from the spec: `DnsPartsWithoutTermination` streamed, every label
    after its one-byte length. -/
def encodeParts (parts : List Label) : Bytes :=
  (parts.map fun l => UInt8.ofNat l.length :: l).flatten

/-- Modelled from the spec: a `DnsHostnameParts` streamed, its labels and then the
    zero-length terminator. -/
def encodeName (parts : List Label) : Bytes := encodeParts parts ++ [0]

/-- Modelled from the spec: `DnsHostnameParts::StreamedSize`, a length byte and the
    bytes of every label, and one byte for the terminator. -/
def streamedSize (parts : List Label) : Nat := (parts.map fun l => l.length + 1).sum + 1

@[simp] theorem encodeParts_nil : encodeParts [] = [] := rfl

@[simp] theorem encodeParts_cons (l : Label) (ls : List Label) :
    encodeParts (l :: ls) = UInt8.ofNat l.length :: (l ++ encodeParts ls) := rfl

@[simp] theorem streamedSize_nil : streamedSize [] = 1 := rfl

@[simp] theorem streamedSize_cons (l : Label) (ls : List Label) :
    streamedSize (l :: ls) = l.length + 1 + streamedSize ls := by
  simp [streamedSize]; omega

theorem encodeParts_length (parts : List Label) :
    (encodeParts parts).length + 1 = streamedSize parts := by
  induction parts with
  | nil => rfl
  | cons l ls ih => simp only [encodeParts_cons, List.length_cons, List.length_append,
      streamedSize_cons, ← ih]; omega

/-- `StreamedSize` is the number of bytes the name takes on the wire. -/
theorem encodeName_length (parts : List Label) : (encodeName parts).length = streamedSize parts := by
  simp [encodeName, ← encodeParts_length]

theorem streamedSize_append (a b : List Label) :
    streamedSize (a ++ b) + 1 = streamedSize a + streamedSize b := by
  induction a with
  | nil => simp; omega
  | cons l ls ih => simp only [List.cons_append, streamedSize_cons]; omega

-- ---------------------------------------------------------------------------
-- Decoding
-- ---------------------------------------------------------------------------

/-- Where the labels of a name stop. -/
inductive LabelsEnd
  | terminator
  | pointer (target : Nat)
  deriving DecidableEq, Repr

/-- Modelled from the spec: the labels `DnsHostnamePartsStream` reads from `pos` up
    to the zero-length label or a compression pointer, and the offset after that
    end. `fuel` bounds the number of labels. -/
def readLabels (d : Bytes) : Nat → Nat → Option (List Label × LabelsEnd × Nat)
  | 0, _ => none
  | fuel + 1, pos =>
    match d[pos]? with
    | none => none
    | some b =>
      if b.toNat = 0 then some ([], .terminator, pos + 1)
      else if b.toNat < 64 then
        if pos + 1 + b.toNat ≤ d.length then
          (readLabels d fuel (pos + 1 + b.toNat)).map fun (ls, e, next) =>
            ((d.drop (pos + 1)).take b.toNat :: ls, e, next)
        else none
      else if 192 ≤ b.toNat then
        match d[pos + 1]? with
        | none => none
        | some lo => some ([], .pointer ((b.toNat - 192) * 256 + lo.toNat), pos + 2)
      else none

/-- Modelled from the spec: `DnsHostnamePartsStream` run to the end and
    `ConsumeStream`, as one function. The labels of the name at `pos` and the offset
    just after it on the wire; a pointer is followed once, and its target must end
    with the terminator. `none` when the name is malformed or over 255 bytes. -/
def decodeName (d : Bytes) (pos : Nat) : Option (List Label × Nat) :=
  match readLabels d (d.length + 1) pos with
  | some (parts, .terminator, next) =>
    if streamedSize parts ≤ 255 then some (parts, next) else none
  | some (parts, .pointer target, next) =>
    match readLabels d (d.length + 1) target with
    | some (rest, .terminator, _) =>
      if streamedSize (parts ++ rest) ≤ 255 then some (parts ++ rest, next) else none
    | _ => none
  | none => none

/-- No decoded label is empty: a zero length byte ends the labels. -/
theorem readLabels_ne_nil {d : Bytes} {fuel pos : Nat} {parts : List Label} {e : LabelsEnd} {next : Nat}
    (h : readLabels d fuel pos = some (parts, e, next)) : ∀ l ∈ parts, l ≠ [] := by
  induction fuel generalizing pos parts with
  | zero => cases h
  | succ fuel ih =>
    simp only [readLabels] at h
    split at h
    · cases h
    · rename_i b _
      split_ifs at h with h0 h64 hfit
      · cases h; simp
      · obtain ⟨⟨ls, _, _⟩, hr, heq⟩ := Option.map_eq_some'.mp h
        cases heq
        intro l hl
        rcases List.mem_cons.mp hl with rfl | hl
        · rw [← List.length_pos, List.length_take, List.length_drop]; omega
        · exact ih hr l hl
      all_goals (split at h <;> cases h; simp)

theorem decodeName_ne_nil {d : Bytes} {pos next : Nat} {parts : List Label}
    (h : decodeName d pos = some (parts, next)) : ∀ l ∈ parts, l ≠ [] := by
  simp only [decodeName] at h
  split at h
  · split_ifs at h; cases h; exact readLabels_ne_nil ‹_›
  · split at h
    · split_ifs at h
      cases h
      intro l hl
      rcases List.mem_append.mp hl with hl | hl
      · exact readLabels_ne_nil ‹readLabels d _ pos = _› l hl
      · exact readLabels_ne_nil ‹readLabels d _ _ = some (_, .terminator, _)› l hl
    · cases h
  · cases h

/-- Reading labels always moves forward. -/
theorem readLabels_next_gt {d : Bytes} {fuel pos : Nat} {parts : List Label} {e : LabelsEnd} {next : Nat}
    (h : readLabels d fuel pos = some (parts, e, next)) : pos < next := by
  induction fuel generalizing pos parts with
  | zero => cases h
  | succ fuel ih =>
    simp only [readLabels] at h
    split at h
    · cases h
    · split_ifs at h
      · cases h; omega
      · obtain ⟨⟨ls, _, _⟩, hr, heq⟩ := Option.map_eq_some'.mp h
        cases heq
        have := ih hr
        omega
      all_goals (split at h <;> cases h; omega)

/-- A decoded name takes at least one byte. -/
theorem decodeName_next_gt {d : Bytes} {pos next : Nat} {parts : List Label}
    (h : decodeName d pos = some (parts, next)) : pos < next := by
  simp only [decodeName] at h
  split at h
  · split_ifs at h; cases h; exact readLabels_next_gt ‹_›
  · split at h
    · split_ifs at h; cases h; exact readLabels_next_gt ‹readLabels d _ pos = _›
    · cases h
  · cases h

/-- A label of 1 to 63 bytes. -/
def Label.Wellformed (l : Label) : Prop := l ≠ [] ∧ l.length < 64

theorem length_lt_streamedSize (parts : List Label) : parts.length < streamedSize parts := by
  induction parts with
  | nil => simp
  | cons l ls ih => simp only [List.length_cons, streamedSize_cons]; omega

private theorem getElem?_append_cons (pre rest : Bytes) (b : UInt8) :
    (pre ++ b :: rest)[pre.length]? = some b := by
  rw [List.getElem?_append_right (Nat.le_refl _), Nat.sub_self, List.getElem?_cons_zero]

theorem readLabels_encodeName (parts : List Label)
    (h : ∀ l ∈ parts, l.Wellformed) (pre post : Bytes) (fuel : Nat) (hfuel : parts.length < fuel) :
    readLabels (pre ++ encodeName parts ++ post) fuel pre.length =
      some (parts, .terminator, pre.length + streamedSize parts) := by
  induction parts generalizing pre fuel with
  | nil =>
    obtain ⟨fuel, rfl⟩ : ∃ f, fuel = f + 1 := ⟨fuel - 1, by simp at hfuel; omega⟩
    simp only [encodeName, encodeParts_nil, List.nil_append, List.append_assoc,
      List.singleton_append]
    rw [readLabels, getElem?_append_cons]
    simp
  | cons l ls ih =>
    obtain ⟨fuel, rfl⟩ : ∃ f, fuel = f + 1 := ⟨fuel - 1, by simp at hfuel; omega⟩
    obtain ⟨hne, hlt⟩ := h l (List.mem_cons_self _ _)
    have hpos : 0 < l.length := List.length_pos.mpr hne
    have hb : (UInt8.ofNat l.length).toNat = l.length := by simp; omega
    have hsplit : pre ++ encodeName (l :: ls) ++ post =
        pre ++ UInt8.ofNat l.length :: (l ++ (encodeName ls ++ post)) := by
      simp [encodeName]
    have hrec := ih (fun l' hl' => h l' (List.mem_cons_of_mem _ hl'))
      (pre ++ UInt8.ofNat l.length :: l) fuel (by simp at hfuel; omega)
    have hdrop : (pre ++ UInt8.ofNat l.length :: (l ++ (encodeName ls ++ post))).drop
        (pre.length + 1) = l ++ (encodeName ls ++ post) := by
      rw [← List.singleton_append, ← List.append_assoc]; exact List.drop_left' (by simp)
    simp only [List.append_assoc, List.cons_append, List.length_append, List.length_cons] at hrec
    rw [hsplit, readLabels, getElem?_append_cons]
    simp only [hb, encodeName_length, List.length_append, List.length_cons]
    rw [if_neg (by omega), if_pos hlt, if_pos (by omega), hdrop, List.take_left,
      show pre.length + 1 + l.length = pre.length + (l.length + 1) by omega, hrec]
    simp only [Option.map_some', streamedSize_cons]
    congr 3; omega

/-- Round trip: a name encoded without compression decodes back to its labels, at any
    offset and with any bytes after it, and the reader ends just after it. -/
theorem decodeName_encodeName (parts : List Label) (h : ∀ l ∈ parts, l.Wellformed)
    (hsize : streamedSize parts ≤ 255) (pre post : Bytes) :
    decodeName (pre ++ encodeName parts ++ post) pre.length =
      some (parts, pre.length + streamedSize parts) := by
  have hlen := length_lt_streamedSize parts
  have hfuel : parts.length < (pre ++ encodeName parts ++ post).length + 1 := by
    simp [encodeName_length]; omega
  rw [decodeName, readLabels_encodeName parts h pre post _ hfuel]
  simp [hsize]

-- ---------------------------------------------------------------------------
-- Malformed names
-- ---------------------------------------------------------------------------

/-- The labels from `pos` on run past the end of the datagram: after labels that fit,
    a length byte promises more bytes than there are. -/
inductive LabelsOverrun (d : Bytes) : Nat → Prop
  | here {pos : Nat} {b : UInt8} : d[pos]? = some b → 0 < b.toNat → b.toNat < 64 →
      d.length < pos + 1 + b.toNat → LabelsOverrun d pos
  | next {pos : Nat} {b : UInt8} : d[pos]? = some b → 0 < b.toNat → b.toNat < 64 →
      LabelsOverrun d (pos + 1 + b.toNat) → LabelsOverrun d pos

/-- The labels from `pos` on end in a compression pointer to `target`. -/
inductive EndsInPointer (d : Bytes) : Nat → Nat → Prop
  | here {pos : Nat} {b lo : UInt8} : d[pos]? = some b → 192 ≤ b.toNat → d[pos + 1]? = some lo →
      EndsInPointer d pos ((b.toNat - 192) * 256 + lo.toNat)
  | next {pos target : Nat} {b : UInt8} : d[pos]? = some b → 0 < b.toNat → b.toNat < 64 →
      EndsInPointer d (pos + 1 + b.toNat) target → EndsInPointer d pos target

/-- The malformed names of §4.1 and §7: a label length running past the end of the
    datagram, a compression pointer whose target lies outside the datagram, and a
    pointer leading to labels that overrun or to another pointer. -/
def Malformed (d : Bytes) (pos : Nat) : Prop :=
  LabelsOverrun d pos ∨ ∃ target, EndsInPointer d pos target ∧
    (d.length ≤ target ∨ LabelsOverrun d target ∨ ∃ target', EndsInPointer d target target')

theorem readLabels_of_labelsOverrun {d : Bytes} {pos : Nat} (h : LabelsOverrun d pos) (fuel : Nat) :
    readLabels d fuel pos = none := by
  induction h generalizing fuel with
  | here hb h0 h64 hlen =>
    cases fuel with
    | zero => rfl
    | succ fuel => simp [readLabels, hb, Nat.pos_iff_ne_zero.mp h0, h64, Nat.not_le.mpr hlen]
  | next hb h0 h64 _ ih =>
    cases fuel with
    | zero => rfl
    | succ fuel => simp [readLabels, hb, Nat.pos_iff_ne_zero.mp h0, h64, ih]

theorem EndsInPointer.lt_length {d : Bytes} {pos target : Nat} (h : EndsInPointer d pos target) :
    pos < d.length := by
  cases h <;> exact (List.getElem?_eq_some_iff.mp ‹_›).1

theorem readLabels_of_endsInPointer {d : Bytes} {pos target : Nat} (h : EndsInPointer d pos target)
    (fuel : Nat) (hfuel : d.length < fuel + pos) :
    ∃ parts next, readLabels d fuel pos = some (parts, .pointer target, next) := by
  have hpos := h.lt_length
  obtain ⟨fuel, rfl⟩ : ∃ f, fuel = f + 1 := ⟨fuel - 1, by omega⟩
  induction h generalizing fuel with
  | @here pos b lo hb h192 hlo =>
    exact ⟨[], pos + 2, by
      simp [readLabels, hb, hlo, show b.toNat ≠ 0 by omega, show ¬b.toNat < 64 by omega, h192]⟩
  | @next pos target b hb h0 h64 hrest ih =>
    have hlt := hrest.lt_length
    obtain ⟨parts, next, hr⟩ := ih hlt (fuel - 1) (by omega)
    rw [show fuel - 1 + 1 = fuel by omega] at hr
    exact ⟨(d.drop (pos + 1)).take b.toNat :: parts, next, by
      simp [readLabels, hb, Nat.pos_iff_ne_zero.mp h0, h64, show pos + 1 + b.toNat ≤ d.length by omega, hr]⟩

/-- The decoder rejects every malformed name. -/
theorem decodeName_of_malformed {d : Bytes} {pos : Nat} (h : Malformed d pos) : decodeName d pos = none := by
  rcases h with hover | ⟨target, hptr, hout | hover | ⟨target', hptr'⟩⟩
  · simp [decodeName, readLabels_of_labelsOverrun hover]
  all_goals
    obtain ⟨parts, next, hr⟩ := readLabels_of_endsInPointer hptr (d.length + 1) (by omega)
    simp only [decodeName, hr]
  · simp [readLabels, List.getElem?_eq_none hout]
  · simp [readLabels_of_labelsOverrun hover]
  · obtain ⟨rest, next', hr'⟩ := readLabels_of_endsInPointer hptr' (d.length + 1) (by omega)
    simp [hr']

-- ---------------------------------------------------------------------------
-- Dotted names
-- ---------------------------------------------------------------------------

/-- The dotted name `ReadHostname` builds: the labels with a `'.'` between each two. -/
def joinLabels (parts : List Label) : Bytes := [dot].intercalate parts

/-- Modelled from the spec: the parts `DnsHostnamePartsString` yields from a dotted
    name, its `'.'`-separated pieces up to the first empty one (an empty current
    part is `Empty()`). -/
def dnsParts (hostname : Bytes) : List Label := (hostname.splitOn dot).takeWhile (!·.isEmpty)

/-- Splitting a joined name gives its labels back when no label is empty or holds
    a `'.'`. -/
theorem dnsParts_joinLabels (parts : List Label) (h : ∀ l ∈ parts, l ≠ [] ∧ dot ∉ l) :
    dnsParts (joinLabels parts) = parts := by
  by_cases hne : parts = []
  · subst hne; rfl
  · rw [dnsParts, joinLabels, List.splitOn_intercalate parts dot (fun l hl => (h l hl).2) hne,
      List.takeWhile_eq_self_iff]
    intro l hl
    simpa using (h l hl).1

/-- The loop of `HostNameIs`: walk the candidate's labels and the parts side by side
    while they agree, and succeed when both run out together. -/
def matchParts : List Label → List Label → Bool
  | c :: cs, p :: ps => if p = c then matchParts cs ps else false
  | [], ps => ps.isEmpty
  | _ :: _, [] => false

@[simp] theorem matchParts_iff (components parts : List Label) :
    matchParts components parts = true ↔ parts = components := by
  induction components generalizing parts with
  | nil => cases parts <;> simp [matchParts]
  | cons c cs ih =>
    cases parts with
    | nil => simp [matchParts]
    | cons p ps => by_cases hp : p = c <;> simp [matchParts, hp, ih]

end Bonjour
