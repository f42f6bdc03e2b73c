import StateAddress.Text.Utf8

/-!
# The secure hash algorithms SHA-256 and SHA-512

Both digests come from one construction over words of 32 and 64 bits.  The message is padded to
whole blocks of sixteen words, each block is mixed into eight chaining words, and the digest is
the big-endian form of the chaining words at the end.  The rounds of a block consume the message
schedule as a sliding window of sixteen words.

## Main definitions

* `Sha2.Word` : what the rounds ask of a word.
* `Sha2.Variant` : the constants and the rotation counts of one word size.
* `Sha2.digest` : the digest of a message under a variant.
* `sha256`, `sha512` : the two digests in use.

## Main results

* `length_sha256`, `length_sha512` : the digests have 32 and 64 bytes.
-/

namespace StateAddress

namespace Sha2

/-! ### Words -/

/-- Words of a fixed number of bytes, with addition modulo the word size. -/
class Word (α : Type) extends Add α, AndOp α, XorOp α, Complement α where
  /-- The number of bytes. -/
  width : Nat
  /-- The word of a number, modulo the word size. -/
  ofNat : Nat → α
  /-- The number of a word. -/
  toNat : α → Nat
  /-- The word moved to the right, zeros from the left. -/
  shiftRight : α → Nat → α
  /-- The word moved to the right, the bits that leave coming back from the left. -/
  rotateRight : α → Nat → α

instance : Word UInt32 where
  width := 4
  ofNat := UInt32.ofNat
  toNat := UInt32.toNat
  shiftRight x n := x >>> UInt32.ofNat n
  rotateRight x n := (x >>> UInt32.ofNat n) ||| (x <<< UInt32.ofNat (32 - n))

instance : Word UInt64 where
  width := 8
  ofNat := UInt64.ofNat
  toNat := UInt64.toNat
  shiftRight x n := x >>> UInt64.ofNat n
  rotateRight x n := (x >>> UInt64.ofNat n) ||| (x <<< UInt64.ofNat (64 - n))

/-- The big-endian form of a number in `count` bytes. -/
def bigEndian : (count : Nat) → Nat → Bytes
  | 0, _ => []
  | count + 1, n => bigEndian count (n / 256) ++ [UInt8.ofNat (n % 256)]

/-- The number that a byte string is the big-endian form of. -/
def ofBigEndian (b : Bytes) : Nat := b.foldl (fun n x => 256 * n + x.toNat) 0

@[simp] theorem length_bigEndian : (count n : Nat) → (bigEndian count n).length = count
  | 0, _ => rfl
  | count + 1, n => by simp [bigEndian, length_bigEndian count]

/-! ### Variants -/

/-- The eight chaining words. -/
structure Chain (α : Type) where
  a : α
  b : α
  c : α
  d : α
  e : α
  f : α
  g : α
  h : α

/-- The constants and the rotation counts of one word size. -/
structure Variant (α : Type) where
  /-- The chaining words at the start. -/
  start : Chain α
  /-- One constant for each round. -/
  rounds : List α
  /-- The rotations mixed from the first chaining word. -/
  mixA : Nat × Nat × Nat
  /-- The rotations mixed from the fifth chaining word. -/
  mixE : Nat × Nat × Nat
  /-- Two rotations and a shift of the schedule word fifteen rounds back. -/
  near : Nat × Nat × Nat
  /-- Two rotations and a shift of the schedule word two rounds back. -/
  far : Nat × Nat × Nat

/-- The first 64 bits of the fractional parts of the square roots of the first eight primes. -/
def squareRoots : List Nat :=
  [0x6a09e667f3bcc908, 0xbb67ae8584caa73b, 0x3c6ef372fe94f82b, 0xa54ff53a5f1d36f1,
    0x510e527fade682d1, 0x9b05688c2b3e6c1f, 0x1f83d9abfb41bd6b, 0x5be0cd19137e2179]

/-- The first 64 bits of the fractional parts of the cube roots of the first eighty primes. -/
def cubeRoots : List Nat :=
  [0x428a2f98d728ae22, 0x7137449123ef65cd, 0xb5c0fbcfec4d3b2f, 0xe9b5dba58189dbbc,
    0x3956c25bf348b538, 0x59f111f1b605d019, 0x923f82a4af194f9b, 0xab1c5ed5da6d8118,
    0xd807aa98a3030242, 0x12835b0145706fbe, 0x243185be4ee4b28c, 0x550c7dc3d5ffb4e2,
    0x72be5d74f27b896f, 0x80deb1fe3b1696b1, 0x9bdc06a725c71235, 0xc19bf174cf692694,
    0xe49b69c19ef14ad2, 0xefbe4786384f25e3, 0x0fc19dc68b8cd5b5, 0x240ca1cc77ac9c65,
    0x2de92c6f592b0275, 0x4a7484aa6ea6e483, 0x5cb0a9dcbd41fbd4, 0x76f988da831153b5,
    0x983e5152ee66dfab, 0xa831c66d2db43210, 0xb00327c898fb213f, 0xbf597fc7beef0ee4,
    0xc6e00bf33da88fc2, 0xd5a79147930aa725, 0x06ca6351e003826f, 0x142929670a0e6e70,
    0x27b70a8546d22ffc, 0x2e1b21385c26c926, 0x4d2c6dfc5ac42aed, 0x53380d139d95b3df,
    0x650a73548baf63de, 0x766a0abb3c77b2a8, 0x81c2c92e47edaee6, 0x92722c851482353b,
    0xa2bfe8a14cf10364, 0xa81a664bbc423001, 0xc24b8b70d0f89791, 0xc76c51a30654be30,
    0xd192e819d6ef5218, 0xd69906245565a910, 0xf40e35855771202a, 0x106aa07032bbd1b8,
    0x19a4c116b8d2d0c8, 0x1e376c085141ab53, 0x2748774cdf8eeb99, 0x34b0bcb5e19b48a8,
    0x391c0cb3c5c95a63, 0x4ed8aa4ae3418acb, 0x5b9cca4f7763e373, 0x682e6ff3d6b2b8a3,
    0x748f82ee5defb2fc, 0x78a5636f43172f60, 0x84c87814a1f0ab72, 0x8cc702081a6439ec,
    0x90befffa23631e28, 0xa4506cebde82bde9, 0xbef9a3f7b2c67915, 0xc67178f2e372532b,
    0xca273eceea26619c, 0xd186b8c721c0c207, 0xeada7dd6cde0eb1e, 0xf57d4f7fee6ed178,
    0x06f067aa72176fba, 0x0a637dc5a2c898a6, 0x113f9804bef90dae, 0x1b710b35131c471b,
    0x28db77f523047d84, 0x32caab7b40c72493, 0x3c9ebe0a15c9bebc, 0x431d67c49c100d4c,
    0x4cc5d4becb3e42b6, 0x597f299cfc657e2a, 0x5fcb6fab3ad6faec, 0x6c44198c4a475817]

/-- The chaining words made of the first numbers of a list. -/
def Chain.ofList {α : Type} [Word α] (ns : List Nat) : Chain α :=
  let word i : α := Word.ofNat (ns.getD i 0)
  ⟨word 0, word 1, word 2, word 3, word 4, word 5, word 6, word 7⟩

/-- The variant of 64-bit words, in eighty rounds. -/
def wide : Variant UInt64 where
  start := .ofList squareRoots
  rounds := cubeRoots.map UInt64.ofNat
  mixA := (28, 34, 39)
  mixE := (14, 18, 41)
  near := (1, 8, 7)
  far := (19, 61, 6)

/-- The variant of 32-bit words, in sixty-four rounds; its constants are the upper halves. -/
def narrow : Variant UInt32 where
  start := .ofList (squareRoots.map (· >>> 32))
  rounds := (cubeRoots.take 64).map fun n => UInt32.ofNat (n >>> 32)
  mixA := (2, 13, 22)
  mixE := (6, 11, 25)
  near := (7, 18, 3)
  far := (17, 19, 10)

/-! ### Rounds -/

section Rounds

variable {α : Type} [Word α]

/-- Three rotations of a word, added bit by bit. -/
def mix (counts : Nat × Nat × Nat) (x : α) : α :=
  Word.rotateRight x counts.1 ^^^ Word.rotateRight x counts.2.1 ^^^ Word.rotateRight x counts.2.2

/-- Two rotations and a shift of a word, added bit by bit. -/
def spread (counts : Nat × Nat × Nat) (x : α) : α :=
  Word.rotateRight x counts.1 ^^^ Word.rotateRight x counts.2.1 ^^^ Word.shiftRight x counts.2.2

/-- Each bit of the first word chooses between the bits of the other two. -/
def choose (x y z : α) : α := (x &&& y) ^^^ (~~~x &&& z)

/-- Each bit is the one that at least two of the words have. -/
def majority (x y z : α) : α := (x &&& y) ^^^ (x &&& z) ^^^ (y &&& z)

/-- One round on the chaining words, with its constant and its schedule word. -/
def Chain.round (v : Variant α) (s : Chain α) (constant word : α) : Chain α :=
  let t := s.h + mix v.mixE s.e + choose s.e s.f s.g + constant + word
  { a := t + (mix v.mixA s.a + majority s.a s.b s.c), b := s.a, c := s.b, d := s.c,
    e := s.d + t, f := s.e, g := s.f, h := s.g }

/-- The word of the schedule at a place of the window. -/
def windowWord (window : List α) (i : Nat) : α := window.getD i (Word.ofNat 0)

/-- The window one round later: the oldest word leaves, the next word of the schedule enters. -/
def advance (v : Variant α) (window : List α) : List α :=
  window.tail ++ [spread v.far (windowWord window 14) + windowWord window 9 +
    spread v.near (windowWord window 1) + windowWord window 0]

/-- The chaining words added word by word. -/
def Chain.add (s t : Chain α) : Chain α :=
  ⟨s.a + t.a, s.b + t.b, s.c + t.c, s.d + t.d, s.e + t.e, s.f + t.f, s.g + t.g, s.h + t.h⟩

/-- The first `count` words of a byte string, big-endian. -/
def wordsOf : (count : Nat) → Bytes → List α
  | 0, _ => []
  | count + 1, b =>
      Word.ofNat (ofBigEndian (b.take (Word.width α))) :: wordsOf count (b.drop (Word.width α))

/-- All rounds of one block. -/
def Chain.compress (v : Variant α) (s : Chain α) (block : Bytes) : Chain α :=
  s.add (v.rounds.foldl
    (fun p constant => (p.1.round v constant (windowWord p.2 0), advance v p.2))
    (s, wordsOf 16 block)).1

/-! ### Messages -/

/-- The number of bytes of a block. -/
def blockLength (α : Type) [Word α] : Nat := 16 * Word.width α

/-- The message with a one bit, zeros up to a whole number of blocks and its length in bits. -/
def pad (α : Type) [Word α] (message : Bytes) : Bytes :=
  let size := blockLength α
  let used := message.length + 1 + 2 * Word.width α
  message ++ 0x80 :: List.replicate ((size - used % size) % size) 0 ++
    bigEndian (2 * Word.width α) (8 * message.length)

/-- The chaining words after the first `count` blocks of a byte string. -/
def Chain.absorb (v : Variant α) : (count : Nat) → Bytes → Chain α → Chain α
  | 0, _, s => s
  | count + 1, b, s =>
      absorb v count (b.drop (blockLength α)) (s.compress v (b.take (blockLength α)))

/-- The big-endian form of the chaining words. -/
def Chain.toBytes (s : Chain α) : Bytes :=
  [s.a, s.b, s.c, s.d, s.e, s.f, s.g, s.h].flatMap fun x =>
    bigEndian (Word.width α) (Word.toNat x)

/-- The digest of a message. -/
def digest (v : Variant α) (message : Bytes) : Bytes :=
  let padded := pad α message
  (v.start.absorb v (padded.length / blockLength α) padded).toBytes

@[simp] theorem length_digest (v : Variant α) (message : Bytes) :
    (digest v message).length = 8 * Word.width α := by
  simp [digest, Chain.toBytes]
  omega

end Rounds

end Sha2

/-- The SHA-256 digest of a message. -/
def sha256 (message : Bytes) : Bytes := Sha2.digest Sha2.narrow message

/-- The SHA-512 digest of a message. -/
def sha512 (message : Bytes) : Bytes := Sha2.digest Sha2.wide message

/-- A SHA-256 digest has 32 bytes. -/
@[simp] theorem length_sha256 (message : Bytes) : (sha256 message).length = 32 :=
  Sha2.length_digest _ message

example : sha256 [0x61, 0x62, 0x63] =
    [0xba, 0x78, 0x16, 0xbf, 0x8f, 0x01, 0xcf, 0xea, 0x41, 0x41, 0x40, 0xde, 0x5d, 0xae, 0x22,
      0x23, 0xb0, 0x03, 0x61, 0xa3, 0x96, 0x17, 0x7a, 0x9c, 0xb4, 0x10, 0xff, 0x61, 0xf2, 0x00,
      0x15, 0xad] := by
  decide +kernel

/-- A SHA-512 digest has 64 bytes. -/
@[simp] theorem length_sha512 (message : Bytes) : (sha512 message).length = 64 :=
  Sha2.length_digest _ message

example : sha512 [0x61, 0x62, 0x63] =
    [0xdd, 0xaf, 0x35, 0xa1, 0x93, 0x61, 0x7a, 0xba, 0xcc, 0x41, 0x73, 0x49, 0xae, 0x20, 0x41,
      0x31, 0x12, 0xe6, 0xfa, 0x4e, 0x89, 0xa9, 0x7e, 0xa2, 0x0a, 0x9e, 0xee, 0xe6, 0x4b, 0x55,
      0xd3, 0x9a, 0x21, 0x92, 0x99, 0x2a, 0x27, 0x4f, 0xc1, 0xa8, 0x36, 0xba, 0x3c, 0x23, 0xa3,
      0xfe, 0xeb, 0xbd, 0x45, 0x4d, 0x44, 0x23, 0x64, 0x3c, 0xe8, 0x0e, 0x2a, 0x9a, 0xc9, 0x4f,
      0xa5, 0x4c, 0xa4, 0x9f] := by
  decide +kernel

end StateAddress
