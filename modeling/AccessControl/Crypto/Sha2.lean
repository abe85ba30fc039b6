import AccessControl.Bytes

/-!
# The SHA-2 hash functions

SHA-256 and SHA-512 are one construction over words of two widths. A message is padded to whole
blocks of sixteen words; each block is stirred into eight chaining words by rounds that take one
constant each, while a window of sixteen words slides along the message schedule. `Sha2.Width` holds
what differs between the two: the word type, its rotations and the constants.

Digests have the width their function promises (`length_sha256`, `length_sha512`).
-/

namespace AccessControl

namespace Sha2

/-- The eight chaining words. -/
structure Chain (w : Type) where
  a : w
  b : w
  c : w
  d : w
  e : w
  f : w
  g : w
  h : w

/-- What distinguishes one function of the family from another. -/
structure Width (w : Type) where
  /-- Octets in a word. -/
  wordLength : Nat
  /-- The word with a given value, modulo the width. -/
  ofNat : Nat → w
  /-- The value of a word. -/
  toNat : w → Nat
  /-- The mixing of the chaining word `a`. -/
  upper0 : w → w
  /-- The mixing of the chaining word `e`. -/
  upper1 : w → w
  /-- The mixing of the second oldest word of the schedule. -/
  lower0 : w → w
  /-- The mixing of the second newest word of the schedule. -/
  lower1 : w → w
  /-- The constant of each round. -/
  constants : List w
  /-- The chaining words before the first block. -/
  initial : Chain w

section

variable {w : Type} [Add w] [AndOp w] [XorOp w] [Complement w]

/-- The chaining words after one round with the given schedule word and constant. -/
@[specialize] def round (width : Width w) (chain : Chain w) (word constant : w) : Chain w :=
  let choice := (chain.e &&& chain.f) ^^^ (~~~chain.e &&& chain.g)
  let majority := (chain.a &&& chain.b) ^^^ (chain.a &&& chain.c) ^^^ (chain.b &&& chain.c)
  let t1 := chain.h + width.upper1 chain.e + choice + constant + word
  let t2 := width.upper0 chain.a + majority
  ⟨t1 + t2, chain.a, chain.b, chain.c, chain.d + t1, chain.e, chain.f, chain.g⟩

/-- The next word of the schedule after a window of sixteen. -/
@[specialize] def nextWord (width : Width w) (window : List w) : w :=
  let zero := width.ofNat 0
  width.lower1 (window.getD 14 zero) + window.getD 9 zero +
    width.lower0 (window.getD 1 zero) + window.getD 0 zero

/-- Runs one round for each constant, sliding the window along the schedule. -/
@[specialize] def rounds (width : Width w) : List w → List w → Chain w → Chain w
  | [], _, chain => chain
  | constant :: rest, window, chain =>
    let chain := round width chain (window.getD 0 (width.ofNat 0)) constant
    rounds width rest (window.drop 1 ++ [nextWord width window]) chain

/-- Stirs one block, given as its sixteen words, into the chaining words. -/
@[specialize] def compress (width : Width w) (chain : Chain w) (block : List w) : Chain w :=
  let next := rounds width width.constants block chain
  ⟨chain.a + next.a, chain.b + next.b, chain.c + next.c, chain.d + next.d,
    chain.e + next.e, chain.f + next.f, chain.g + next.g, chain.h + next.h⟩

/-- Cuts a list into pieces of `size` elements; a shorter rest is dropped. -/
def pieces {α : Type} (size : Nat) (items : List α) : List (List α) :=
  if 0 < size ∧ size ≤ items.length then items.take size :: pieces size (items.drop size) else []
termination_by items.length
decreasing_by simp; omega

/-- The message, one set bit, zeros up to a whole block, and the message length in bits. -/
def pad (wordLength : Nat) (message : Bytes) : Bytes :=
  let block := 16 * wordLength
  -- The octet with the set bit and the two words of the length follow the message.
  let used := message.length + 1 + 2 * wordLength
  message ++ 0x80 :: List.replicate ((block - used % block) % block) 0 ++
    Bytes.bigEndian (2 * wordLength) (message.length * 8)

/-- The eight chaining words as octets. -/
def output (width : Width w) (chain : Chain w) : Bytes :=
  let word (x : w) := Bytes.bigEndian width.wordLength (width.toNat x)
  word chain.a ++ word chain.b ++ word chain.c ++ word chain.d ++
    word chain.e ++ word chain.f ++ word chain.g ++ word chain.h

/-- The digest of a message. -/
@[specialize] def hash (width : Width w) (message : Bytes) : Bytes :=
  let words := (pieces width.wordLength (pad width.wordLength message)).map
    fun octets => width.ofNat (Bytes.ofBigEndian octets)
  output width ((pieces 16 words).foldl (compress width) width.initial)

omit [Add w] [AndOp w] [XorOp w] [Complement w] in
theorem length_output (width : Width w) (chain : Chain w) :
    (output width chain).length = 8 * width.wordLength := by
  simp [output]; omega

end

/-- A 32-bit word turned right by `n` places. -/
def turn32 (x : UInt32) (n : UInt32) : UInt32 :=
  (x >>> n) ||| (x <<< (32 - n))

/-- A 64-bit word turned right by `n` places. -/
def turn64 (x : UInt64) (n : UInt64) : UInt64 :=
  (x >>> n) ||| (x <<< (64 - n))

/-- The round constants of SHA-256: the first 32 fraction bits of the cube roots of the first 64
primes. -/
def constants32 : List UInt32 := [
  0x428a2f98, 0x71374491, 0xb5c0fbcf, 0xe9b5dba5, 0x3956c25b, 0x59f111f1, 0x923f82a4, 0xab1c5ed5,
  0xd807aa98, 0x12835b01, 0x243185be, 0x550c7dc3, 0x72be5d74, 0x80deb1fe, 0x9bdc06a7, 0xc19bf174,
  0xe49b69c1, 0xefbe4786, 0x0fc19dc6, 0x240ca1cc, 0x2de92c6f, 0x4a7484aa, 0x5cb0a9dc, 0x76f988da,
  0x983e5152, 0xa831c66d, 0xb00327c8, 0xbf597fc7, 0xc6e00bf3, 0xd5a79147, 0x06ca6351, 0x14292967,
  0x27b70a85, 0x2e1b2138, 0x4d2c6dfc, 0x53380d13, 0x650a7354, 0x766a0abb, 0x81c2c92e, 0x92722c85,
  0xa2bfe8a1, 0xa81a664b, 0xc24b8b70, 0xc76c51a3, 0xd192e819, 0xd6990624, 0xf40e3585, 0x106aa070,
  0x19a4c116, 0x1e376c08, 0x2748774c, 0x34b0bcb5, 0x391c0cb3, 0x4ed8aa4a, 0x5b9cca4f, 0x682e6ff3,
  0x748f82ee, 0x78a5636f, 0x84c87814, 0x8cc70208, 0x90befffa, 0xa4506ceb, 0xbef9a3f7, 0xc67178f2]

/-- The round constants of SHA-512: the first 64 fraction bits of the cube roots of the first 80
primes. -/
def constants64 : List UInt64 := [
  0x428a2f98d728ae22, 0x7137449123ef65cd, 0xb5c0fbcfec4d3b2f, 0xe9b5dba58189dbbc,
  0x3956c25bf348b538, 0x59f111f1b605d019, 0x923f82a4af194f9b, 0xab1c5ed5da6d8118,
  0xd807aa98a3030242, 0x12835b0145706fbe, 0x243185be4ee4b28c, 0x550c7dc3d5ffb4e2,
  0x72be5d74f27b896f, 0x80deb1fe3b1696b1, 0x9bdc06a725c71235, 0xc19bf174cf692694,
  0xe49b69c19ef14ad2, 0xefbe4786384f25e3, 0x0fc19dc68b8cd5b5, 0x240ca1cc77ac9c65,
  0x2de92c6f592b0275, 0x4a7484aa6ea6e483, 0x5cb0a9dcbd41fbd4, 0x76f988da831153b5,
  0x983e5152ee66dfab, 0xa831c66d2db43210, 0xb00327c898fb213f, 0xbf597fc7beef0ee4,
  0xc6e00bf33da88fc2, 0xd5a79147930aa725, 0x06ca6351e003826f, 0x142929670a0e6e70,
  0x27b70a8546d22ffc, 0x2e1b21385c26c926, 0x4d2c6dfc5ac42aed, 0x53380d139d95b3df,
  0x650a73548baf63de, 0x766a0abb3c77b2a8, 0x81c2c92e47edaee6, 0x92722c851482353b,
  0xa2bfe8a14cf10364, 0xa81a664bbc423001, 0xc24b8b70d0f89791, 0xc76c51a30654be30,
  0xd192e819d6ef5218, 0xd69906245565a910, 0xf40e35855771202a, 0x106aa07032bbd1b8,
  0x19a4c116b8d2d0c8, 0x1e376c085141ab53, 0x2748774cdf8eeb99, 0x34b0bcb5e19b48a8,
  0x391c0cb3c5c95a63, 0x4ed8aa4ae3418acb, 0x5b9cca4f7763e373, 0x682e6ff3d6b2b8a3,
  0x748f82ee5defb2fc, 0x78a5636f43172f60, 0x84c87814a1f0ab72, 0x8cc702081a6439ec,
  0x90befffa23631e28, 0xa4506cebde82bde9, 0xbef9a3f7b2c67915, 0xc67178f2e372532b,
  0xca273eceea26619c, 0xd186b8c721c0c207, 0xeada7dd6cde0eb1e, 0xf57d4f7fee6ed178,
  0x06f067aa72176fba, 0x0a637dc5a2c898a6, 0x113f9804bef90dae, 0x1b710b35131c471b,
  0x28db77f523047d84, 0x32caab7b40c72493, 0x3c9ebe0a15c9bebc, 0x431d67c49c100d4c,
  0x4cc5d4becb3e42b6, 0x597f299cfc657e2a, 0x5fcb6fab3ad6faec, 0x6c44198c4a475817]

/-- The parameters of SHA-256. -/
def width32 : Width UInt32 where
  wordLength := 4
  ofNat := UInt32.ofNat
  toNat := UInt32.toNat
  upper0 x := turn32 x 2 ^^^ turn32 x 13 ^^^ turn32 x 22
  upper1 x := turn32 x 6 ^^^ turn32 x 11 ^^^ turn32 x 25
  lower0 x := turn32 x 7 ^^^ turn32 x 18 ^^^ (x >>> 3)
  lower1 x := turn32 x 17 ^^^ turn32 x 19 ^^^ (x >>> 10)
  constants := constants32
  initial := ⟨0x6a09e667, 0xbb67ae85, 0x3c6ef372, 0xa54ff53a, 0x510e527f,
    0x9b05688c, 0x1f83d9ab, 0x5be0cd19⟩

/-- The parameters of SHA-512. -/
def width64 : Width UInt64 where
  wordLength := 8
  ofNat := UInt64.ofNat
  toNat := UInt64.toNat
  upper0 x := turn64 x 28 ^^^ turn64 x 34 ^^^ turn64 x 39
  upper1 x := turn64 x 14 ^^^ turn64 x 18 ^^^ turn64 x 41
  lower0 x := turn64 x 1 ^^^ turn64 x 8 ^^^ (x >>> 7)
  lower1 x := turn64 x 19 ^^^ turn64 x 61 ^^^ (x >>> 6)
  constants := constants64
  initial := ⟨0x6a09e667f3bcc908, 0xbb67ae8584caa73b, 0x3c6ef372fe94f82b, 0xa54ff53a5f1d36f1,
    0x510e527fade682d1, 0x9b05688c2b3e6c1f, 0x1f83d9abfb41bd6b, 0x5be0cd19137e2179⟩

end Sha2

/-- The SHA-256 digest of a message. -/
def sha256 (message : Bytes) : Bytes :=
  Sha2.hash Sha2.width32 message

/-- The SHA-512 digest of a message. -/
def sha512 (message : Bytes) : Bytes :=
  Sha2.hash Sha2.width64 message

@[simp] theorem length_sha256 (message : Bytes) : (sha256 message).length = 32 :=
  Sha2.length_output ..

@[simp] theorem length_sha512 (message : Bytes) : (sha512 message).length = 64 :=
  Sha2.length_output ..

/-- HMAC with SHA-256: the keyed digest of a message. -/
def hmacSha256 (key message : Bytes) : Bytes :=
  -- The key fills one block; one that is too long is replaced by its digest.
  let key := if key.length ≤ 64 then key else sha256 key
  let key := key ++ List.replicate (64 - key.length) 0
  sha256 (key.map (· ^^^ 0x5c) ++ sha256 (key.map (· ^^^ 0x36) ++ message))

end AccessControl
