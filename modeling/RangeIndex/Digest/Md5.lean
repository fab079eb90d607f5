/-!
# MD5

The digest that tells whether a source file is the one that was indexed. A message is padded to
whole blocks of 64 bytes, each block is mixed into a state of four words by 64 rounds, and the
digest is the final state, low bytes first.
-/

namespace RangeIndex.Digest.Md5

/-- The four words that the digest accumulates in. -/
structure State where
  a : UInt32
  b : UInt32
  c : UInt32
  d : UInt32

/-- The state before the first block. -/
def State.start : State :=
  ⟨0x67452301, 0xefcdab89, 0x98badcfe, 0x10325476⟩

/-- The constant that each round adds. -/
def sines : Array UInt32 := #[
  0xd76aa478, 0xe8c7b756, 0x242070db, 0xc1bdceee, 0xf57c0faf, 0x4787c62a, 0xa8304613, 0xfd469501,
  0x698098d8, 0x8b44f7af, 0xffff5bb1, 0x895cd7be, 0x6b901122, 0xfd987193, 0xa679438e, 0x49b40821,
  0xf61e2562, 0xc040b340, 0x265e5a51, 0xe9b6c7aa, 0xd62f105d, 0x02441453, 0xd8a1e681, 0xe7d3fbc8,
  0x21e1cde6, 0xc33707d6, 0xf4d50d87, 0x455a14ed, 0xa9e3e905, 0xfcefa3f8, 0x676f02d9, 0x8d2a4c8a,
  0xfffa3942, 0x8771f681, 0x6d9d6122, 0xfde5380c, 0xa4beea44, 0x4bdecfa9, 0xf6bb4b60, 0xbebfbc70,
  0x289b7ec6, 0xeaa127fa, 0xd4ef3085, 0x04881d05, 0xd9d4d039, 0xe6db99e5, 0x1fa27cf8, 0xc4ac5665,
  0xf4292244, 0x432aff97, 0xab9423a7, 0xfc93a039, 0x655b59c3, 0x8f0ccc92, 0xffeff47d, 0x85845dd1,
  0x6fa87e4f, 0xfe2ce6e0, 0xa3014314, 0x4e0811a1, 0xf7537e82, 0xbd3af235, 0x2ad7d2bb, 0xeb86d391]

/-- How far round `i` rotates. -/
def rotation (i : Nat) : UInt32 :=
  match i / 16, i % 4 with
  | 0, 0 => 7
  | 0, 1 => 12
  | 0, 2 => 17
  | 0, _ => 22
  | 1, 0 => 5
  | 1, 1 => 9
  | 1, 2 => 14
  | 1, _ => 20
  | 2, 0 => 4
  | 2, 1 => 11
  | 2, 2 => 16
  | 2, _ => 23
  | _, 0 => 6
  | _, 1 => 10
  | _, 2 => 15
  | _, _ => 21

/-- Rotates a word to the left by less than its width. -/
def rotateLeft (x n : UInt32) : UInt32 :=
  (x <<< n) ||| (x >>> (32 - n))

/-- The word mixed in at round `i`, and the position in the block of the word that is added. -/
def mix (s : State) (i : Nat) : UInt32 × Nat :=
  match i / 16 with
  | 0 => ((s.b &&& s.c) ||| (~~~s.b &&& s.d), i % 16)
  | 1 => ((s.d &&& s.b) ||| (~~~s.d &&& s.c), (5 * i + 1) % 16)
  | 2 => (s.b ^^^ s.c ^^^ s.d, (3 * i + 5) % 16)
  | _ => (s.c ^^^ (s.b ||| ~~~s.d), (7 * i) % 16)

/-- One round over the words of a block. -/
def round (words : Array UInt32) (s : State) (i : Nat) : State :=
  let (f, position) := mix s i
  let sum := f + s.a + sines.getD i 0 + words.getD position 0
  ⟨s.d, s.b + rotateLeft sum (rotation i), s.b, s.c⟩

/-- The byte at a position, zero past the end. -/
def byteAt (bytes : ByteArray) (i : Nat) : UInt32 :=
  if h : i < bytes.size then bytes[i].toUInt32 else 0

/-- The sixteen words of the block that starts at `offset`, low bytes first. -/
def blockWords (bytes : ByteArray) (offset : Nat) : Array UInt32 :=
  (Array.range 16).map fun i =>
    let at_ := offset + 4 * i
    byteAt bytes at_ ||| (byteAt bytes (at_ + 1) <<< 8) ||| (byteAt bytes (at_ + 2) <<< 16) |||
      (byteAt bytes (at_ + 3) <<< 24)

/-- Mixes the block that starts at `offset` into the state. -/
def absorb (bytes : ByteArray) (s : State) (offset : Nat) : State :=
  let words := blockWords bytes offset
  let t := (List.range 64).foldl (round words) s
  ⟨s.a + t.a, s.b + t.b, s.c + t.c, s.d + t.d⟩

/-- The bytes of a number, low bytes first. -/
def littleEndian (count n : Nat) : ByteArray :=
  ⟨(Array.range count).map fun i => UInt8.ofNat (n >>> (8 * i))⟩

/-- The message with a one bit, zeros up to a block's last eight bytes, and its length in bits. -/
def pad (message : ByteArray) : ByteArray :=
  let zeros := (119 - message.size % 64) % 64
  message ++ ⟨#[0x80]⟩ ++ ⟨Array.replicate zeros 0⟩ ++ littleEndian 8 (8 * message.size)

/-- The digest of a message. -/
def digest (message : ByteArray) : ByteArray :=
  let padded := pad message
  let s := (List.range (padded.size / 64)).foldl (fun s i => absorb padded s (64 * i)) State.start
  littleEndian 4 s.a.toNat ++ littleEndian 4 s.b.toNat ++ littleEndian 4 s.c.toNat ++
    littleEndian 4 s.d.toNat

/-- A byte as two lowercase hexadecimal digits. -/
def hexByte (b : UInt8) : List Char :=
  [Nat.digitChar (b.toNat / 16), Nat.digitChar (b.toNat % 16)]

/-- The digest of a message in lowercase hexadecimal. -/
def hexDigest (message : ByteArray) : String :=
  String.ofList ((digest message).toList.flatMap hexByte)

end RangeIndex.Digest.Md5
