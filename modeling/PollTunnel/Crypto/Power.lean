/-!
# Repeated composition

`repeated op one n x` composes `n` copies of `x` with far fewer than `n` steps.  With a product it
is a power, with the addition of points on a curve a multiple.
-/

set_option autoImplicit false

namespace PollTunnel

/-- Compose `n` copies of `x` by `op`, where `one` stands for no copy at all: by halves, with one
more copy where `n` is odd. -/
def repeated {α : Type} (op : α → α → α) (one : α) (n : Nat) (x : α) : α :=
  if h : n = 0 then one
  else
    let half := repeated op one (n / 2) (op x x)
    if n % 2 = 1 then op x half else half
termination_by n
decreasing_by omega

/-- The remainder of a power. -/
def powMod (base exponent modulus : Nat) : Nat :=
  repeated (fun x y => x * y % modulus) (1 % modulus) exponent (base % modulus)

/-- A power of a residue. -/
def residuePower {n : Nat} (x : Fin n) (exponent : Nat) : Fin n :=
  repeated (· * ·) ⟨1 % n, Nat.mod_lt 1 x.pos⟩ exponent x

example : powMod 3 5 7 = 5 := by decide +kernel

end PollTunnel
