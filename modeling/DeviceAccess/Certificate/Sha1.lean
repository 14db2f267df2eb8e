import DeviceAccess.Text.Utf8

/-!
# Fingerprints of octets

The hash of 160 bits that names a certificate. The message is padded to whole blocks of sixty-four
octets, and each block drives eighty rounds over five words.
-/

namespace DeviceAccess.Sha1

open Text

/-- The five words between blocks and between rounds. -/
structure State where
  a : UInt32
  b : UInt32
  c : UInt32
  d : UInt32
  e : UInt32

/-- The words before the first block. -/
def start : State := ⟨0x67452301, 0xEFCDAB89, 0x98BADCFE, 0x10325476, 0xC3D2E1F0⟩

/-- A word turned left by some bits. -/
def rotate (w : UInt32) (bits : UInt32) : UInt32 := (w <<< bits) ||| (w >>> (32 - bits))

/-- A number in `width` octets, most significant first. -/
def wordOctets : Nat → Nat → Octets
  | 0, _ => []
  | width + 1, n => UInt8.ofNat (n / Nat.pow 256 width % 256) :: wordOctets width n

/-- The message with its padding: one bit, zeros, and the length in bits. -/
def padded (message : Octets) : Octets :=
  -- nine octets of padding are fixed: the marking bit and the length
  let zeros := (119 - message.length % 64) % 64
  message ++ [0x80] ++ List.replicate zeros 0 ++ wordOctets 8 (message.length * 8)

/-- The words of a block. -/
def words : Octets → List UInt32
  | a :: b :: c :: d :: rest =>
    ((a.toUInt32 <<< 24) ||| (b.toUInt32 <<< 16) ||| (c.toUInt32 <<< 8) ||| d.toUInt32) ::
      words rest
  | _ => []

/-- The mixing function and the constant of round `t`. -/
def mixing (t : Nat) (s : State) : UInt32 × UInt32 :=
  if t < 20 then ((s.b &&& s.c) ||| (s.b ^^^ 0xFFFFFFFF) &&& s.d, 0x5A827999)
  else if t < 40 then (s.b ^^^ s.c ^^^ s.d, 0x6ED9EBA1)
  else if t < 60 then ((s.b &&& s.c) ||| (s.b &&& s.d) ||| (s.c &&& s.d), 0x8F1BBCDC)
  else (s.b ^^^ s.c ^^^ s.d, 0xCA62C1D6)

/-- The rounds from `t` on, with the next sixteen words of the schedule. -/
def rounds : Nat → Nat → List UInt32 → State → State
  | 0, _, _, s => s
  | left + 1, t, schedule, s =>
    match schedule with
    | [] => s
    | w :: later =>
      let next := rotate (schedule.getD 13 0 ^^^ schedule.getD 8 0 ^^^ schedule.getD 2 0 ^^^ w) 1
      let (mixed, constant) := mixing t s
      let a := rotate s.a 5 + mixed + s.e + constant + w
      rounds left (t + 1) (later ++ [next]) ⟨a, s.a, rotate s.b 30, s.c, s.d⟩

/-- The words after one more block. -/
def absorb (s : State) (block : List UInt32) : State :=
  let r := rounds 80 0 block s
  ⟨s.a + r.a, s.b + r.b, s.c + r.c, s.d + r.d, s.e + r.e⟩

/-- The words after all blocks. -/
def absorbAll (s : State) (message : List UInt32) : State :=
  if message.length < 16 then s
  else absorbAll (absorb s (message.take 16)) (message.drop 16)
termination_by message.length
decreasing_by
  simp only [List.length_drop]
  omega

/-- The hash of a message. -/
def digest (message : Octets) : Octets :=
  let s := absorbAll start (words (padded message))
  [s.a, s.b, s.c, s.d, s.e].flatMap fun w => wordOctets 4 w.toNat

end DeviceAccess.Sha1
