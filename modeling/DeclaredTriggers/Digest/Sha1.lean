/-!
# The SHA-1 digest

The 160-bit digest of a list of bytes, and of a text by its UTF-8 bytes, in hexadecimal. The
message is padded to whole blocks of sixteen words; each block is stretched to eighty words,
which are mixed into five words of state one after another.
-/

namespace DeclaredTriggers.Digest

/-- The five words of state. -/
structure Sha1State where
  a : UInt32
  b : UInt32
  c : UInt32
  d : UInt32
  e : UInt32

/-- The state before the first block. -/
def Sha1State.initial : Sha1State :=
  ⟨0x67452301, 0xEFCDAB89, 0x98BADCFE, 0x10325476, 0xC3D2E1F0⟩

/-- A word with its bits moved `n` places to the left, those that fall off coming back at the
right. -/
def rotateLeft (w : UInt32) (n : UInt32) : UInt32 := (w <<< n) ||| (w >>> (32 - n))

/-- The low `n` bytes of a number, the highest first. -/
def bigEndian : Nat → Nat → List UInt8
  | 0, _ => []
  | n + 1, x => UInt8.ofNat (x >>> (8 * n)) :: bigEndian n x

/-- A message with a one bit, zeros and its length in bits after it, in whole blocks of 64
bytes. -/
def padded (message : List UInt8) : List UInt8 :=
  let zeros := (119 - message.length % 64) % 64
  message ++ 0x80 :: List.replicate zeros 0 ++ bigEndian 8 (8 * message.length)

/-- Bytes as words, four at a time, the highest byte first. -/
def words : List UInt8 → List UInt32
  | p :: q :: r :: s :: rest =>
    ((p.toUInt32 <<< 24) ||| (q.toUInt32 <<< 16) ||| (r.toUInt32 <<< 8) ||| s.toUInt32) ::
      words rest
  | _ => []

/-- `count` words of the schedule that begins with a window of sixteen. -/
def schedule : Nat → List UInt32 → List UInt32
  | 0, _ | _, [] => []
  | count + 1, w :: rest =>
    let mixed := w ^^^ rest.getD 1 0 ^^^ rest.getD 7 0 ^^^ rest.getD 12 0
    w :: schedule count (rest ++ [rotateLeft mixed 1])

/-- The mixing function and the constant of a round. -/
def roundMix (t : Nat) (s : Sha1State) : UInt32 × UInt32 :=
  if t < 20 then ((s.b &&& s.c) ||| (~~~s.b &&& s.d), 0x5A827999)
  else if t < 40 then (s.b ^^^ s.c ^^^ s.d, 0x6ED9EBA1)
  else if t < 60 then ((s.b &&& s.c) ||| (s.b &&& s.d) ||| (s.c &&& s.d), 0x8F1BBCDC)
  else (s.b ^^^ s.c ^^^ s.d, 0xCA62C1D6)

/-- One round: the word `w` of the schedule mixed into the state. -/
def round (s : Sha1State) (tw : Nat × UInt32) : Sha1State :=
  let (f, k) := roundMix tw.1 s
  ⟨rotateLeft s.a 5 + f + s.e + k + tw.2, s.a, rotateLeft s.b 30, s.c, s.d⟩

/-- The state after one more block of sixteen words. -/
def absorb (s : Sha1State) (block : List UInt32) : Sha1State :=
  let t := ((List.range 80).zip (schedule 80 block)).foldl round s
  ⟨s.a + t.a, s.b + t.b, s.c + t.c, s.d + t.d, s.e + t.e⟩

/-- The state after all blocks; `count` is their number. -/
def absorbAll : Nat → Sha1State → List UInt32 → Sha1State
  | 0, s, _ => s
  | count + 1, s, ws => absorbAll count (absorb s (ws.take 16)) (ws.drop 16)

/-- A byte as two hexadecimal digits. -/
def hexByte (b : UInt8) : List Char :=
  [Nat.digitChar (b.toNat / 16), Nat.digitChar (b.toNat % 16)]

/-- The digest of a list of bytes, as forty hexadecimal digits. -/
def sha1Hex (message : List UInt8) : List Char :=
  let ws := words (padded message)
  let s := absorbAll (ws.length / 16) .initial ws
  [s.a, s.b, s.c, s.d, s.e].flatMap fun w => (bigEndian 4 w.toNat).flatMap hexByte

/-- The digest of a text. -/
def sha1 (text : String) : String := String.ofList (sha1Hex text.toUTF8.toList)

end DeclaredTriggers.Digest
