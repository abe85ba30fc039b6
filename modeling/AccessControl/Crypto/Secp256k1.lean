import AccessControl.Crypto.Modular
import AccessControl.Crypto.Sha2

/-!
# ECDSA signatures over secp256k1

The curve is `y² = x³ + 7` in homogeneous coordinates: `(X, Y, Z)` stands for `(X / Z, Y / Z)`, and
`(0, 1, 0)` for the point at infinity. `Point.add` is complete, so it needs no special case for
equal, opposite or infinite points.

A public key is read from its compressed, uncompressed or x-only form and kept in the compressed
one. Messages are hashed with SHA-256. Signatures are 64 octets, `r` then `s`, with `s` in the lower
half of the scalars: of `s` and its opposite, which both satisfy the equation, only the smaller one
is made and accepted. The secret number of a signature is derived from the key and the message, so
signing needs no randomness.
-/

namespace AccessControl.Secp256k1

/-- The field of the coordinates is the integers modulo this prime. -/
def fieldPrime : Nat := (1 <<< 256) - (1 <<< 32) - 977

/-- The order of the group, a prime. -/
def order : Nat := 0xfffffffffffffffffffffffffffffffebaaedce6af48a03bbfd25e8cd0364141

/-- A point in homogeneous coordinates. -/
structure Point where
  x : Nat
  y : Nat
  z : Nat

namespace Point

/-- The point at infinity. -/
def zero : Point := ⟨0, 1, 0⟩

/-- The sum of two points; the formula holds for every pair. -/
def add (p q : Point) : Point :=
  let m := fieldPrime
  let xx := p.x * q.x % m
  let yy := p.y * q.y % m
  let zz := 21 * (p.z * q.z % m) % m
  let xy := (p.x * q.y + q.x * p.y) % m
  let yz := (p.y * q.z + q.y * p.z) % m
  let xz := 21 * ((p.x * q.z + q.x * p.z) % m) % m
  let sum := (yy + zz) % m
  let difference := Modular.minus m yy zz
  ⟨Modular.minus m (xy * difference) (yz * xz % m),
    (difference * sum + xz * (3 * xx)) % m,
    (sum * yz + 3 * xx * xy) % m⟩

/-- `n` times a point. -/
def multiple (n : Nat) (p : Point) : Point :=
  Modular.multiple add zero p n

/-- The `x` coordinate; zero for the point at infinity. -/
def affineX (p : Point) : Nat :=
  p.x * Modular.inverse fieldPrime p.z % fieldPrime

/-- The `y` coordinate; zero for the point at infinity. -/
def affineY (p : Point) : Nat :=
  p.y * Modular.inverse fieldPrime p.z % fieldPrime

/-- The point in 33 octets: the parity of `y`, then `x`. -/
def encode (p : Point) : Bytes :=
  (if p.affineY % 2 = 0 then 2 else 3) :: Bytes.bigEndian 32 p.affineX

/-- The point of the curve with the given `x` and parity of `y`. -/
def ofX? (x parity : Nat) : Option Point :=
  let m := fieldPrime
  let square := (x * x % m * x + 7) % m
  -- The prime is 3 modulo 4, so this is a square root if there is one.
  let y := Modular.power m square ((m + 1) / 4)
  if x < m ∧ y * y % m = square then
    some ⟨x, if y % 2 = parity then y else Modular.minus m 0 y, 1⟩
  else none

/-- The point that octets stand for: `2` or `3` and `x` in the compressed form, `4`, `x` and `y` in
the uncompressed one, `5` and `x` in the form that leaves out the parity of `y`, which is even. -/
def decode? : Bytes → Option Point
  | [] => none
  | tag :: rest =>
    let x := Bytes.ofBigEndian (rest.take 32)
    if rest.length = 32 then
      if tag = 2 ∨ tag = 5 then ofX? x 0 else if tag = 3 then ofX? x 1 else none
    else if rest.length = 64 ∧ tag = 4 then
      let y := Bytes.ofBigEndian (rest.drop 32)
      if x < fieldPrime ∧ y < fieldPrime ∧ y * y % fieldPrime = (x * x * x + 7) % fieldPrime then
        some ⟨x, y, 1⟩
      else none
    else none

/-- The base point. -/
def base : Point :=
  ⟨0x79be667ef9dcbbac55a06295ce870b07029bfcdb2dce28d959f2815b16f81798,
    0x483ada7726a3c4655da4fbfc0e1108a8fd17b448a68554199c47d08ffb10d4b8, 1⟩

end Point

/-- Whether a secret is a number that signs: neither zero nor as large as the order. -/
def isSecret (secret : Bytes) : Bool :=
  let d := Bytes.ofBigEndian secret
  secret.length == 32 && 0 < d && d < order

/-- The public key of a secret, in compressed form. -/
def publicKey (secret : Bytes) : Bytes :=
  (Point.multiple (Bytes.ofBigEndian secret) Point.base).encode

/-- The generator of candidate numbers for signing: a key and a value, both of 32 octets. -/
structure Generator where
  key : Bytes
  value : Bytes

namespace Generator

/-- Takes in a separator and some octets. -/
def stir (g : Generator) (separator : UInt8) (octets : Bytes) : Generator :=
  let key := hmacSha256 g.key (g.value ++ separator :: octets)
  ⟨key, hmacSha256 key g.value⟩

/-- The generator for a secret and the digest of a message. -/
def seeded (secret digest : Bytes) : Generator :=
  let start : Generator := ⟨List.replicate 32 0, List.replicate 32 1⟩
  (start.stir 0 (secret ++ digest)).stir 1 (secret ++ digest)

/-- The first of at most `tries` candidates that is a number between zero and the order. -/
def candidate? (g : Generator) : (tries : Nat) → Option Nat
  | 0 => none
  | tries + 1 =>
    let value := hmacSha256 g.key g.value
    let k := Bytes.ofBigEndian value
    if 0 < k ∧ k < order then some k else candidate? (stir ⟨g.key, value⟩ 0 []) tries

end Generator

/-- The number below the order that stands for a message in the signature equation. -/
def messageNumber (message : Bytes) : Nat :=
  Bytes.ofBigEndian (sha256 message) % order

/-- The signature of a message under a secret. Each candidate fails with a chance below `2⁻¹²⁷`, so
the empty answer for `32` failures in a row does not occur. -/
def sign (secret message : Bytes) : Bytes :=
  let z := messageNumber message
  match (Generator.seeded secret (Bytes.bigEndian 32 z)).candidate? 32 with
  | none => []
  | some k =>
    let r := (Point.multiple k Point.base).affineX % order
    let s := Modular.inverse order k * (z + r * Bytes.ofBigEndian secret) % order
    -- Of `s` and its opposite, the smaller one.
    let s := if order / 2 < s then order - s else s
    Bytes.bigEndian 32 r ++ Bytes.bigEndian 32 s

/-- Whether a signature of a message holds under a public key. -/
def verify (key message signature : Bytes) : Bool :=
  let r := Bytes.ofBigEndian (signature.take 32)
  let s := Bytes.ofBigEndian (signature.drop 32)
  match Point.decode? key with
  | none => false
  | some point =>
    signature.length == 64 && 0 < r && r < order && 0 < s && s ≤ order / 2 &&
      -- With a true signature, `(z / s) B + (r / s) A` is the point that `r` was taken from.
      let inverse := Modular.inverse order s
      let sum := Point.add
        (Point.multiple (messageNumber message * inverse % order) Point.base)
        (Point.multiple (r * inverse % order) point)
      sum.affineX % order == r

end AccessControl.Secp256k1
