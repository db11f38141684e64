/-!
# The MD5 digest

The MD5 digest of a list of bytes.  The message is closed by a one bit, zeros and its
length in bits, and cut into blocks of sixteen little-endian words; sixty-four steps per block mix
the block into four words of state.  All arithmetic is that of 32-bit words.
-/

namespace ScrobbleRelay.Digest

/-- The four words of state. -/
structure Md5State where
  a : UInt32
  b : UInt32
  c : UInt32
  d : UInt32
  deriving Repr, DecidableEq

/-- The state before the first block. -/
def Md5State.start : Md5State := ⟨0x67452301, 0xefcdab89, 0x98badcfe, 0x10325476⟩

/-- The additive constants of the steps: the first 32 bits of the fraction of `|sin (i + 1)|`. -/
def md5Constants : List UInt32 :=
  [ 0xd76aa478, 0xe8c7b756, 0x242070db, 0xc1bdceee, 0xf57c0faf, 0x4787c62a,
    0xa8304613, 0xfd469501, 0x698098d8, 0x8b44f7af, 0xffff5bb1, 0x895cd7be,
    0x6b901122, 0xfd987193, 0xa679438e, 0x49b40821, 0xf61e2562, 0xc040b340,
    0x265e5a51, 0xe9b6c7aa, 0xd62f105d, 0x02441453, 0xd8a1e681, 0xe7d3fbc8,
    0x21e1cde6, 0xc33707d6, 0xf4d50d87, 0x455a14ed, 0xa9e3e905, 0xfcefa3f8,
    0x676f02d9, 0x8d2a4c8a, 0xfffa3942, 0x8771f681, 0x6d9d6122, 0xfde5380c,
    0xa4beea44, 0x4bdecfa9, 0xf6bb4b60, 0xbebfbc70, 0x289b7ec6, 0xeaa127fa,
    0xd4ef3085, 0x04881d05, 0xd9d4d039, 0xe6db99e5, 0x1fa27cf8, 0xc4ac5665,
    0xf4292244, 0x432aff97, 0xab9423a7, 0xfc93a039, 0x655b59c3, 0x8f0ccc92,
    0xffeff47d, 0x85845dd1, 0x6fa87e4f, 0xfe2ce6e0, 0xa3014314, 0x4e0811a1,
    0xf7537e82, 0xbd3af235, 0x2ad7d2bb, 0xeb86d391
  ]

/-- The amounts by which the steps rotate, four for each of the four rounds. -/
def md5Rotations : List (List UInt32) :=
  [[7, 12, 17, 22], [5, 9, 14, 20], [4, 11, 16, 23], [6, 10, 15, 21]]

/-- The amount by which step `i` rotates. -/
def md5Rotation (i : Nat) : UInt32 :=
  ((md5Rotations.getD (i / 16) []).getD (i % 4) 0)

/-- A word rotated to the left. -/
def rotateLeft (w amount : UInt32) : UInt32 := (w <<< amount) ||| (w >>> (32 - amount))

/-- One step on a state: the mixing function and the word of the block depend on the round. -/
def md5Step (block : List UInt32) (s : Md5State) (step : Nat × UInt32) : Md5State :=
  let (i, constant) := step
  let (mixed, index) :=
    if i < 16 then ((s.b &&& s.c) ||| (~~~s.b &&& s.d), i)
    else if i < 32 then ((s.d &&& s.b) ||| (~~~s.d &&& s.c), (5 * i + 1) % 16)
    else if i < 48 then (s.b ^^^ s.c ^^^ s.d, (3 * i + 5) % 16)
    else (s.c ^^^ (s.b ||| ~~~s.d), (7 * i) % 16)
  let sum := s.a + mixed + constant + block.getD index 0
  ⟨s.d, s.b + rotateLeft sum (md5Rotation i), s.b, s.c⟩

/-- A state after one block. -/
def md5Block (s : Md5State) (block : List UInt32) : Md5State :=
  let t := (md5Constants.zipIdx.map fun (k, i) => (i, k)).foldl (md5Step block) s
  ⟨s.a + t.a, s.b + t.b, s.c + t.c, s.d + t.d⟩

/-- The bytes of a word, the lowest first, as many as `count`. -/
def littleEndian (count n : Nat) : List UInt8 :=
  (List.range count).map fun i => UInt8.ofNat (n / Nat.pow 256 i)

/-- A message with its closing: a one bit, zeros up to eight bytes short of a whole block, and the
length in bits as eight bytes. -/
def md5Padded (message : List UInt8) : List UInt8 :=
  let zeros := (55 + (64 - message.length % 64)) % 64
  message ++ [0x80] ++ List.replicate zeros 0 ++ littleEndian 8 (message.length * 8)

/-- The little-endian word of four bytes. -/
def wordOfBytes (bytes : List UInt8) : UInt32 :=
  bytes.foldr (fun b w => (w <<< 8) ||| b.toUInt32) 0

/-- The pieces of a list of the given length, cut `count` times. -/
def pieces (length : Nat) : Nat → List UInt8 → List (List UInt8)
  | 0, _ => []
  | count + 1, bytes => bytes.take length :: pieces length count (bytes.drop length)

/-- The sixteen bytes of the digest of a message. -/
def md5 (message : List UInt8) : List UInt8 :=
  let closed := md5Padded message
  let blocks := (pieces 64 (closed.length / 64) closed).map fun b =>
    (pieces 4 16 b).map wordOfBytes
  let s := blocks.foldl md5Block Md5State.start
  [s.a, s.b, s.c, s.d].flatMap fun w => littleEndian 4 w.toNat

/-- The lower-case hexadecimal digit of a number below sixteen. -/
def hexDigit (n : Nat) : Char :=
  if n < 10 then Char.ofNat (48 + n) else Char.ofNat (87 + n)

/-- Bytes as lower-case hexadecimal digits, two for each. -/
def hexOfBytes (bytes : List UInt8) : List Char :=
  bytes.flatMap fun b => [hexDigit (b.toNat / 16), hexDigit (b.toNat % 16)]

/-- The digest of the UTF-8 form of a text, as thirty-two lower-case hexadecimal digits. -/
def md5Hex (s : String) : String := String.ofList (hexOfBytes (md5 s.toUTF8.toList))

end ScrobbleRelay.Digest
