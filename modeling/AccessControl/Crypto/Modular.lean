/-!
# Arithmetic modulo a prime

Powers, inverses and differences of residues, and multiples of a group element. Both `power` and
`multiple` go through the binary digits of the exponent, so they take a number of steps
proportional to its length.
-/

namespace AccessControl.Modular

/-- `n` copies of `x` joined by `op`, with `unit` for none; `op` is expected to be associative. -/
@[specialize] def multiple {α : Type} (op : α → α → α) (unit x : α) (n : Nat) : α :=
  if h : n = 0 then unit
  else
    let rest := multiple op unit (op x x) (n / 2)
    if n % 2 = 1 then op x rest else rest
termination_by n
decreasing_by omega

/-- `x ^ n` modulo `m`. -/
def power (m x n : Nat) : Nat :=
  multiple (fun a b => a * b % m) (1 % m) (x % m) n

/-- The inverse of `x` modulo a prime `p`, and zero for a multiple of `p`. -/
def inverse (p x : Nat) : Nat :=
  power p x (p - 2)

/-- `x - y` modulo `m`, for a residue `y`. -/
def minus (m x y : Nat) : Nat :=
  (x + (m - y)) % m

end AccessControl.Modular
