import Mathlib
import DeviceAccess.Helper.Frame

/-!
# Frames on a stream

A stream to which messages are written holds their frames one behind the other, and reading takes
them off again, one message at a time and in the same order.

- `signed` is the number that four octets denote in two's complement, `StartsWith` says that a
  stream begins with a frame, and `HasBadLength` that its first four octets are the length of no
  message.
- `read_eq_ok_iff` and `read_eq_invalid_iff` say when reading gives a message, and when it refuses
  a length.
- `frames_exact` puts writing and reading together.
-/

namespace DeviceAccess.Frame

open Text

/-! ## §1 Lengths -/

/-- The number that four octets denote as one word in two's complement, least significant first. -/
def signed (a b c d : UInt8) : Int :=
  (d.toBitVec ++ c.toBitVec ++ b.toBitVec ++ a.toBitVec).toInt

theorem toNat_append_octet {w : Nat} (x : BitVec w) (y : BitVec 8) :
    (x ++ y).toNat = 256 * x.toNat + y.toNat := by
  have hlow : y.toNat < 2 ^ 8 := y.isLt
  rw [BitVec.toNat_append, ← Nat.shiftLeft_add_eq_or_of_lt hlow, Nat.shiftLeft_eq]
  omega

theorem lengthOf_eq_signed (a b c d : UInt8) : lengthOf a b c d = signed a b c d := by
  unfold signed
  rw [BitVec.toInt_eq_toNat_cond]
  simp only [toNat_append_octet, UInt8.toNat_toBitVec, lengthOf, limit31, limit32]
  -- both sides ask on which side of 2^31 the same number lies
  omega

/-- A number below 2^31 is denoted by its octets, and by no others. -/
theorem signed_eq_iff {n : Nat} (hn : n < limit31) (a b c d : UInt8) :
    signed a b c d = n ↔ [a, b, c, d] = lengthOctets n := by
  have ha := a.toNat_lt
  have hb := b.toNat_lt
  have hc := c.toNat_lt
  have hd := d.toNat_lt
  rw [← lengthOf_eq_signed]
  -- octet by octet: below 2^31 the four are the digits of the number to the base 256
  simp only [lengthOctets, List.cons.injEq, and_true, ← UInt8.toNat_inj, UInt8.toNat_ofNat']
  simp only [lengthOf, limit31, limit32] at *
  omega

theorem lt_limit31_of_fits {n : Nat} (h : n ≤ maxLength) : n < limit31 :=
  lt_of_le_of_lt h (by decide)

/-! ## §2 The beginning of a stream -/

/-- The stream begins with the frame of a message that is not too long. -/
structure StartsWith (stream message rest : Octets) : Prop where
  fits : message.length ≤ maxLength
  framed : ∃ a b c d, stream = a :: b :: c :: d :: (message ++ rest) ∧
    signed a b c d = message.length

/-- The first four octets of the stream denote a number that is negative or too large. -/
def HasBadLength (stream : Octets) : Prop :=
  ∃ a b c d rest, stream = a :: b :: c :: d :: rest ∧
    (signed a b c d < 0 ∨ maxLength < signed a b c d)

variable {stream message rest : Octets}

theorem startsWith_iff :
    StartsWith stream message rest ↔
      message.length ≤ maxLength ∧ stream = octets message ++ rest := by
  constructor
  · rintro ⟨hfits, a, b, c, d, rfl, hlength⟩
    have hoctets := (signed_eq_iff (lt_limit31_of_fits hfits) a b c d).mp hlength
    simp [octets, hfits, ← hoctets]
  · rintro ⟨hfits, rfl⟩
    apply StartsWith.mk hfits
    refine ⟨_, _, _, _, rfl, ?_⟩
    apply (signed_eq_iff (lt_limit31_of_fits hfits) _ _ _ _).mpr
    rfl

/-! ## §3 Reading one frame -/

/-- Reading four octets and more, by the number that the four denote. -/
theorem read_cons (a b c d : UInt8) (rest : Octets) :
    read (a :: b :: c :: d :: rest) =
      if signed a b c d < 0 ∨ maxLength < signed a b c d then
        .error (badLength (signed a b c d))
      else if (signed a b c d).toNat ≤ rest.length then
        .ok (rest.take (signed a b c d).toNat, rest.drop (signed a b c d).toNat)
      else .error ended := by
  rw [← lengthOf_eq_signed]
  simp [read]

/-- A stream of fewer than four octets is at its end, and any other begins with four. -/
theorem read_short_or_cons (stream : Octets) :
    ((∀ a b c d rest, stream ≠ a :: b :: c :: d :: rest) ∧ read stream = .error ended) ∨
      ∃ a b c d rest, stream = a :: b :: c :: d :: rest := by
  match stream with
  | [] | [_] | [_, _] | [_, _, _] => exact .inl ⟨by simp, rfl⟩
  | a :: b :: c :: d :: rest => exact .inr ⟨a, b, c, d, rest, rfl⟩

theorem read_eq_ok_iff : read stream = .ok (message, rest) ↔ StartsWith stream message rest := by
  constructor
  · intro h
    obtain ⟨_, hended⟩ | ⟨a, b, c, d, behind, rfl⟩ := read_short_or_cons stream
    · rw [hended] at h
      cases h
    rw [read_cons] at h
    split at h
    · cases h
    split at h
    · rename_i hgood henough
      obtain ⟨rfl, rfl⟩ := Prod.mk.inj (Except.ok.inj h)
      -- what is taken off is as long as the four octets say
      have hlength : (behind.take (signed a b c d).toNat).length = (signed a b c d).toNat :=
        List.length_take_of_le henough
      refine ⟨by omega, a, b, c, d, ?_, by omega⟩
      rw [List.take_append_drop]
    · cases h
  · rintro ⟨hfits, a, b, c, d, rfl, hlength⟩
    have hgood : ¬(signed a b c d < 0 ∨ maxLength < signed a b c d) := by omega
    have hcount : (signed a b c d).toNat = message.length := by omega
    rw [read_cons, if_neg hgood, hcount, if_pos (by simp)]
    simp

theorem read_eq_badLength_iff :
    (∃ n, read stream = .error (badLength n)) ↔ HasBadLength stream := by
  constructor
  · rintro ⟨n, h⟩
    obtain ⟨_, hended⟩ | ⟨a, b, c, d, behind, rfl⟩ := read_short_or_cons stream
    · rw [hended] at h
      cases h
    rw [read_cons] at h
    split at h
    · rename_i hbad
      exact ⟨a, b, c, d, behind, rfl, hbad⟩
    split at h <;> cases h
  · rintro ⟨a, b, c, d, behind, rfl, hbad⟩
    refine ⟨signed a b c d, ?_⟩
    rw [read_cons, if_pos hbad]

/-- Reading gives a message, refuses a length, or finds that the stream is at its end. -/
theorem read_cases (stream : Octets) :
    (∃ message rest, read stream = .ok (message, rest)) ∨
      (∃ n, read stream = .error (badLength n)) ∨ read stream = .error ended := by
  obtain ⟨_, hended⟩ | ⟨a, b, c, d, behind, rfl⟩ := read_short_or_cons stream
  · exact .inr (.inr hended)
  rw [read_cons]
  split
  · exact .inr (.inl ⟨_, rfl⟩)
  split
  · exact .inl ⟨_, _, rfl⟩
  · exact .inr (.inr rfl)

/-- The stream ends too early exactly if it begins neither with a frame nor with a bad length. -/
theorem read_eq_ended_iff :
    read stream = .error ended ↔
      (∀ message rest, ¬StartsWith stream message rest) ∧ ¬HasBadLength stream := by
  constructor
  · intro h
    constructor
    · intro message rest hstarts
      rw [read_eq_ok_iff.mpr hstarts] at h
      cases h
    · intro hbad
      obtain ⟨n, hn⟩ := read_eq_badLength_iff.mpr hbad
      rw [hn] at h
      cases h
  · rintro ⟨hnone, hgood⟩
    obtain ⟨message, rest, hok⟩ | hbad | hended := read_cases stream
    · exact absurd (read_eq_ok_iff.mp hok) (hnone message rest)
    · exact absurd (read_eq_badLength_iff.mp hbad) hgood
    · exact hended

/-- The outcome is a fault of a kind. -/
def FailsWith {α : Type} (outcome : Except IoFault α) (kind : IoKind) : Prop :=
  ∃ fault, outcome = .error fault ∧ fault.kind = kind

theorem failsWith_invalidData_iff :
    FailsWith (read stream) .invalidData ↔ HasBadLength stream := by
  rw [← read_eq_badLength_iff]
  constructor
  · rintro ⟨fault, hfault, hkind⟩
    obtain ⟨message, rest, hok⟩ | hbad | hended := read_cases stream
    · cases hok.symm.trans hfault
    · exact hbad
    · obtain rfl := Except.error.inj (hended.symm.trans hfault)
      cases hkind
  · rintro ⟨n, hbad⟩
    exact ⟨badLength n, hbad, rfl⟩

theorem failsWith_unexpectedEof_iff :
    FailsWith (read stream) .unexpectedEof ↔
      (∀ message rest, ¬StartsWith stream message rest) ∧ ¬HasBadLength stream := by
  rw [← read_eq_ended_iff]
  constructor
  · rintro ⟨fault, hfault, hkind⟩
    obtain ⟨message, rest, hok⟩ | ⟨n, hbad⟩ | hended := read_cases stream
    · cases hok.symm.trans hfault
    · obtain rfl := Except.error.inj (hbad.symm.trans hfault)
      cases hkind
    · exact hended
  · intro hended
    exact ⟨ended, hended, rfl⟩

/-! ## §4 Many frames -/

/-- Writes a message behind what the stream holds. -/
def append (stream message : Octets) : Except IoFault Unit × Octets :=
  match write message with
  | .ok frame => (.ok (), stream ++ frame)
  | .error fault => (.error fault, stream)

/-- The stream after messages are written to it one after the other. -/
def appendAll (stream : Octets) (messages : List Octets) : Octets :=
  messages.foldl (fun s message => (append s message).2) stream

/-- The message is not too long. -/
def fits (message : Octets) : Bool := message.length ≤ maxLength

theorem append_of_fits (h : fits message = true) (stream : Octets) :
    append stream message = (.ok (), stream ++ octets message) := by
  have hlength : message.length ≤ maxLength := of_decide_eq_true h
  simp [append, write, hlength]

/-- A message that is too long is refused and leaves the stream as it was. -/
theorem append_of_not_fits (h : fits message = false) (stream : Octets) :
    FailsWith (append stream message).1 .invalidInput ∧ (append stream message).2 = stream := by
  have hlength : ¬message.length ≤ maxLength := of_decide_eq_false h
  have hrefused : FailsWith (write message) .invalidInput := ⟨_, if_neg hlength, rfl⟩
  obtain ⟨fault, hwrite, hkind⟩ := hrefused
  unfold append
  rw [hwrite]
  exact ⟨⟨fault, rfl, hkind⟩, rfl⟩

/-- The frames of the messages that are not too long stand one behind the other. -/
theorem appendAll_eq (stream : Octets) (messages : List Octets) :
    appendAll stream messages = stream ++ (messages.filter fits).flatMap octets := by
  induction messages generalizing stream with
  | nil => simp [appendAll]
  | cons message rest ih =>
    have hstep : appendAll stream (message :: rest) =
        appendAll (append stream message).2 rest := rfl
    rw [hstep, ih]
    -- a message that is refused leaves no trace, and neither does one that is filtered out
    cases hfits : fits message with
    | true => simp [append_of_fits hfits, hfits]
    | false =>
      obtain ⟨_, hsame⟩ := append_of_not_fits hfits stream
      simp [hsame, hfits]

theorem length_lt_of_read (h : read stream = .ok (message, rest)) :
    rest.length < stream.length := by
  obtain ⟨_, a, b, c, d, rfl, _⟩ := read_eq_ok_iff.mp h
  simp only [List.length_cons, List.length_append]
  omega

/-- Reads messages until that fails. Gives them, and why no further one could be read. -/
def readAll (stream : Octets) : List Octets × IoFault :=
  match _hread : read stream with
  | .ok (message, rest) =>
    let (messages, fault) := readAll rest
    (message :: messages, fault)
  | .error fault => ([], fault)
termination_by stream.length
decreasing_by exact length_lt_of_read _hread

theorem readAll_of_ok (h : read stream = .ok (message, rest)) :
    readAll stream = (message :: (readAll rest).1, (readAll rest).2) := by
  rw [readAll]
  split
  · rename_i other behind hread
    obtain ⟨rfl, rfl⟩ := Prod.mk.inj (Except.ok.inj (h.symm.trans hread))
    rfl
  · rename_i hread
    cases h.symm.trans hread

theorem readAll_of_error {fault : IoFault} (h : read stream = .error fault) :
    readAll stream = ([], fault) := by
  rw [readAll]
  split
  · rename_i hread
    cases h.symm.trans hread
  · rename_i hread
    cases h.symm.trans hread
    rfl

theorem readAll_flatMap_octets {messages : List Octets}
    (h : ∀ message ∈ messages, fits message = true) :
    readAll (messages.flatMap octets) = (messages, ended) := by
  induction messages with
  | nil => exact readAll_of_error rfl
  | cons message rest ih =>
    have hlength : message.length ≤ maxLength := of_decide_eq_true (h message List.mem_cons_self)
    have hread : read ((message :: rest).flatMap octets) = .ok (message, rest.flatMap octets) := by
      apply read_eq_ok_iff.mpr
      apply startsWith_iff.mpr
      exact ⟨hlength, rfl⟩
    rw [readAll_of_ok hread, ih fun m hm => h m (List.mem_cons_of_mem message hm)]

/-- **Writing and reading are exact.** Messages that are written come back in their order, and then
the stream is at its end. A message that is too long is refused and writes nothing. From any stream,
reading takes off the frame that it begins with, refuses a length that no message has, and otherwise
finds that the stream ends too early. -/
theorem frames_exact :
    (∀ messages : List Octets, ∃ fault,
      readAll (appendAll [] messages) = (messages.filter fits, fault) ∧
        fault.kind = .unexpectedEof) ∧
    (∀ stream message : Octets,
      (message.length ≤ maxLength ↔ ∃ frame, append stream message = (.ok (), stream ++ frame) ∧
        ∀ rest, StartsWith (frame ++ rest) message rest) ∧
      (maxLength < message.length ↔
        FailsWith (append stream message).1 .invalidInput ∧
          (append stream message).2 = stream)) ∧
    ∀ stream : Octets,
      (∀ message rest, read stream = .ok (message, rest) ↔ StartsWith stream message rest) ∧
      (FailsWith (read stream) .invalidData ↔ HasBadLength stream) ∧
      (FailsWith (read stream) .unexpectedEof ↔
        (∀ message rest, ¬StartsWith stream message rest) ∧ ¬HasBadLength stream) := by
  refine ⟨fun messages => ?_, fun stream message => ⟨?_, ?_⟩, fun stream => ?_⟩
  · refine ⟨ended, ?_, rfl⟩
    rw [appendAll_eq, List.nil_append]
    apply readAll_flatMap_octets
    intro message hmessage
    exact (List.mem_filter.mp hmessage).2
  · constructor
    · intro hlength
      refine ⟨octets message, append_of_fits (decide_eq_true hlength) stream, fun rest => ?_⟩
      exact startsWith_iff.mpr ⟨hlength, rfl⟩
    · rintro ⟨frame, _, hstarts⟩
      exact (hstarts []).fits
  · constructor
    · intro hlong
      exact append_of_not_fits (decide_eq_false (not_le.mpr hlong)) stream
    · rintro ⟨⟨fault, hrefused, _⟩, _⟩
      by_contra hlength
      rw [append_of_fits (decide_eq_true (not_lt.mp hlength))] at hrefused
      cases hrefused
  · exact ⟨fun message rest => read_eq_ok_iff, failsWith_invalidData_iff,
      failsWith_unexpectedEof_iff⟩

end DeviceAccess.Frame
