/-! Arithmetic modulo a fixed number.
A residue is kept reduced, so equal classes are equal values. Powers take an exponent four bits at a
time, and inverses come from Euclid's algorithm.
-/

namespace PaymentChannel

/-- A number that residues are taken by. -/
class Modulus (modulus : Nat) : Prop where
  pos : 0 < modulus

/-- A number below the modulus, standing for its class. -/
structure Residue (modulus : Nat) where
  val : Nat
  val_lt : val < modulus
deriving DecidableEq

namespace Residue

variable {modulus : Nat}

@[ext] theorem ext : {left right : Residue modulus} → left.val = right.val → left = right
  | ⟨_, _⟩, ⟨_, _⟩, rfl => rfl

/-- A number that is reduced already, if it is. -/
def ofNat? (modulus value : Nat) : Option (Residue modulus) :=
  if below : value < modulus then some ⟨value, below⟩ else none

/-- The sum of two classes. A sum of reduced numbers is past the modulus at most once. -/
def add (left right : Residue modulus) : Residue modulus :=
  let sum := left.val + right.val
  if below : sum < modulus then ⟨sum, below⟩
  else ⟨sum - modulus, by have := left.val_lt; have := right.val_lt; omega⟩

/-- The difference of two classes. -/
def sub (left right : Residue modulus) : Residue modulus :=
  if within : right.val ≤ left.val then
    ⟨left.val - right.val, by have := left.val_lt; omega⟩
  else ⟨left.val + modulus - right.val, by have := right.val_lt; omega⟩

variable [Modulus modulus]

/-- The class of a number. -/
def ofNat (value : Nat) : Residue modulus :=
  ⟨value % modulus, Nat.mod_lt _ Modulus.pos⟩

instance : Zero (Residue modulus) := ⟨ofNat 0⟩
instance : One (Residue modulus) := ⟨ofNat 1⟩
instance : Add (Residue modulus) := ⟨add⟩
instance : Sub (Residue modulus) := ⟨sub⟩
instance : Mul (Residue modulus) := ⟨fun left right => ofNat (left.val * right.val)⟩
instance : Neg (Residue modulus) := ⟨sub 0⟩

/-- The powers by the numbers of so many bits, in increasing order. -/
def powers : (bits : Nat) → Residue modulus → List (Residue modulus)
  | 0, _ => [1]
  | bits + 1, base => (powers bits (base * base)).flatMap fun even => [even, even * base]

/-- The power by the low `digits` hexadecimal digits of an exponent, from the powers by one
digit.
-/
def powerBy (small : List (Residue modulus)) : (digits exponent : Nat) → Residue modulus
  | 0, _ => 1
  | digits + 1, exponent =>
      let high := powerBy small digits (exponent / 16)
      let square := high * high
      let fourth := square * square
      let eighth := fourth * fourth
      eighth * eighth * small.getD (exponent % 16) 1

/-- The power by an exponent below 2 to the power 256. -/
def power (base : Residue modulus) (exponent : Nat) : Residue modulus :=
  powerBy (powers 4 base) 64 exponent

/-- Euclid's algorithm on two numbers that are `s` and `t` times a value up to multiples of the
modulus; the answer stands to their greatest common divisor as `s` stands to the first number.
-/
def euclid : (steps first second : Nat) → (s t : Int) → Int
  | 0, _, _, s, _ => s
  | steps + 1, first, second, s, t =>
      if second = 0 then s
      else euclid steps second (first % second) t (s - (first / second : Nat) * t)

/-- The inverse of a class that has one, for a modulus below 2 to the power 256, where Euclid's
algorithm takes fewer than 512 steps.
-/
def inverse (value : Residue modulus) : Residue modulus :=
  ofNat (euclid 512 modulus value.val 0 1 % modulus).toNat

end Residue

end PaymentChannel
