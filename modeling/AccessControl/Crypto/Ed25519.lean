import AccessControl.Crypto.Modular
import AccessControl.Crypto.Sha2

/-!
# Ed25519 signatures

The curve is `-x² + y² = 1 + d x² y²` over the integers modulo `2²⁵⁵ - 19`, in extended coordinates:
`(X, Y, Z, T)` stands for `(X / Z, Y / Z)` with `T = X Y / Z`. A point is written as its `y`
coordinate in 32 octets, the least significant one first, with the parity of `x` in the top bit.

A public key is any such octets that lead to a point, also with a `y` that is not reduced and with
the top bit set for `x = 0`; it stays in the octets it was given in. A signature is checked by
recomputing its first half from the second, which must be below the group order, and comparing
octets.
-/

namespace AccessControl.Ed25519

/-- The field of the coordinates is the integers modulo this prime. -/
def fieldPrime : Nat := (1 <<< 255) - 19

/-- The order of the base point. -/
def order : Nat := (1 <<< 252) + 27742317777372353535851937790883648493

/-- The coefficient of the curve equation, `-121665 / 121666`. -/
def coefficient : Nat :=
  0x52036cee2b6ffe738cc740797779e89800700a4d4141d8ab75eb4dca135978a3

/-- A square root of `-1`. -/
def rootOfMinusOne : Nat :=
  0x2b8324804fc1df0b2b4d00993dfbd7a72f431806ad2fe478c4ee1b274a0ea0b0

/-- A point in extended coordinates. -/
structure Point where
  x : Nat
  y : Nat
  z : Nat
  t : Nat

namespace Point

/-- The neutral element. -/
def zero : Point := ⟨0, 1, 1, 0⟩

/-- The sum of two points; the formula holds for every pair. -/
def add (p q : Point) : Point :=
  let m := fieldPrime
  let a := Modular.minus m p.y p.x * Modular.minus m q.y q.x % m
  let b := (p.y + p.x) * (q.y + q.x) % m
  let c := 2 * coefficient % m * p.t % m * q.t % m
  let d := 2 * p.z * q.z % m
  let e := Modular.minus m b a
  let f := Modular.minus m d c
  let g := (d + c) % m
  let h := (b + a) % m
  ⟨e * f % m, g * h % m, f * g % m, e * h % m⟩

/-- The opposite point. -/
def negate (p : Point) : Point :=
  ⟨Modular.minus fieldPrime 0 p.x, p.y, p.z, Modular.minus fieldPrime 0 p.t⟩

/-- `n` times a point. -/
def multiple (n : Nat) (p : Point) : Point :=
  Modular.multiple add zero p n

/-- The point in 32 octets. -/
def encode (p : Point) : Bytes :=
  let scale := Modular.inverse fieldPrime p.z
  let x := p.x * scale % fieldPrime
  let y := p.y * scale % fieldPrime
  Bytes.littleEndian 32 (y + x % 2 * (1 <<< 255))

/-- The square root of `u / v`, the even one of the two; `none` when there is none. -/
def squareRoot? (u v : Nat) : Option Nat :=
  let m := fieldPrime
  let v3 := v * v % m * v % m
  let v7 := v3 * v3 % m * v % m
  -- The square of `r`, times `v`, is `u` or `-u` if `u / v` or `-u / v` is a square.
  let r := u * v3 % m * Modular.power m (u * v7 % m) ((m - 5) / 8) % m
  let check := v * (r * r % m) % m
  let even (r : Nat) := if r % 2 = 0 then r else m - r
  if check = u % m then some (even r)
  else if check = Modular.minus m 0 (u % m) then some (even (r * rootOfMinusOne % m))
  else none

/-- The point that 32 octets stand for. -/
def decode? (bytes : Bytes) : Option Point := do
  let number := Bytes.ofLittleEndian bytes
  -- The top bit is the parity of `x`; the other bits need not be below the prime.
  let y := number % (1 <<< 255) % fieldPrime
  let square := y * y % fieldPrime
  -- By the curve equation, `x² = (y² - 1) / (d y² + 1)`.
  let x ← squareRoot? (Modular.minus fieldPrime square 1)
    ((coefficient * square + 1) % fieldPrime)
  let x := if number / (1 <<< 255) = 1 then Modular.minus fieldPrime 0 x else x
  return ⟨x, y, 1, x * y % fieldPrime⟩

/-- The base point; its `y` is `4 / 5` and its `x` even. -/
def base : Point :=
  let x := 0x216936d3cd6e53fec0a4e231fdd6dc5c692cc7609525a7b2c9562d608f25d51a
  let y := 0x6666666666666666666666666666666666666666666666666666666666666658
  ⟨x, y, 1, x * y % fieldPrime⟩

end Point

/-- Whether the octets of a public key lead to a point. -/
def isPublicKey (bytes : Bytes) : Bool :=
  bytes.length == 32 && (Point.decode? bytes).isSome

/-- The secret number of a seed: the first half of its digest, made a multiple of 8 in
`[2²⁵⁴, 2²⁵⁵)`. -/
def secretNumber (seed : Bytes) : Nat :=
  let number := Bytes.ofLittleEndian ((sha512 seed).take 32)
  number % (1 <<< 254) / 8 * 8 + (1 <<< 254)

/-- The public key of a seed. -/
def publicKey (seed : Bytes) : Bytes :=
  (Point.multiple (secretNumber seed % order) Point.base).encode

/-- The number that ties a signature to its first half, the signer and the message. -/
def challenge (first key message : Bytes) : Nat :=
  Bytes.ofLittleEndian (sha512 (first ++ key ++ message)) % order

/-- The signature of a message under a seed. -/
def sign (seed message : Bytes) : Bytes :=
  let key := publicKey seed
  let nonce := Bytes.ofLittleEndian (sha512 ((sha512 seed).drop 32 ++ message)) % order
  let first := (Point.multiple nonce Point.base).encode
  let second := (nonce + challenge first key message * secretNumber seed) % order
  first ++ Bytes.littleEndian 32 second

/-- Whether a signature of a message holds under a public key. -/
def verify (key message signature : Bytes) : Bool :=
  let first := signature.take 32
  let second := Bytes.ofLittleEndian (signature.drop 32)
  match Point.decode? key with
  | none => false
  | some point =>
    -- With a true signature, `s B = R + h A` for the signer's point `A`.
    signature.length == 64 && second < order &&
      (Point.add (Point.multiple second Point.base)
        (Point.multiple (challenge first key message) point.negate)).encode == first

end AccessControl.Ed25519
