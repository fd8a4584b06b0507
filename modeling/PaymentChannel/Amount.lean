/-! Amounts of money in machine words, and what happens when a word is too small.
An operation either answers, is refused for a reason its caller can act on, or stops because a sum
or a difference left the range of its words. The last is never mistaken for a refusal.
-/

namespace PaymentChannel

/-- An amount in satoshi, as outputs hold it. -/
abbrev Sat := UInt64

/-- A signed amount in satoshi: a balance of a party, or a payment, which may go either way. -/
abbrev Balance := Int64

/-- A sum or a difference that is outside of the range of its words. -/
inductive Overflow
  | addition
  | subtraction
deriving DecidableEq

/-- What is reported when arithmetic stops an operation. -/
def Overflow.message : Overflow → String
  | .addition => "attempt to add with overflow"
  | .subtraction => "attempt to subtract with overflow"

/-- Why an operation gave no answer. -/
inductive Failure (ε : Type)
  | refused (reason : ε)
  | overflow (kind : Overflow)
deriving DecidableEq

/-- The answer of an operation, or why there is none. -/
abbrev Outcome (ε α : Type) := Except (Failure ε) α

namespace Outcome

variable {ε α : Type}

/-- No answer, for a reason that the caller can act on. -/
def refuse (reason : ε) : Outcome ε α := .error (.refused reason)

/-- Goes on if a condition holds, and is refused otherwise. -/
def ensure (condition : Prop) [Decidable condition] (reason : ε) : Outcome ε Unit :=
  if condition then .ok () else refuse reason

/-- The value, or a refusal where there is none. -/
def require (reason : ε) : Option α → Outcome ε α
  | some value => .ok value
  | none => refuse reason

/-- The same outcome with the reason for a refusal put into other words. -/
def mapRefusal {ε' : Type} (restate : ε → ε') : Outcome ε α → Outcome ε' α
  | .ok value => .ok value
  | .error (.refused reason) => .error (.refused (restate reason))
  | .error (.overflow kind) => .error (.overflow kind)

end Outcome

/-- The sum of two amounts, if a word holds it. -/
def Sat.add {ε : Type} (left right : Sat) : Outcome ε Sat :=
  if left.toNat + right.toNat < UInt64.size then .ok (left + right) else .error (.overflow .addition)

/-- The sum of some amounts from the left to the right. -/
def Sat.sum {ε : Type} (amounts : List Sat) : Outcome ε Sat :=
  amounts.foldlM Sat.add 0

namespace Balance

/-- The balance of a given size, if a word holds it. -/
def ofInt? (value : Int) : Option Balance :=
  if -0x8000000000000000 ≤ value ∧ value ≤ 0x7fffffffffffffff then some (Int64.ofInt value)
  else none

/-- The largest balance. -/
def greatest : Balance := Int64.maxValue

/-- The balance nearest to a given size. -/
def clamp (value : Int) : Balance :=
  (ofInt? value).getD (if value < 0 then Int64.minValue else greatest)

/-- The balance spelled by the bits of an amount; half of the amounts come out negative. -/
def ofBits (amount : Sat) : Balance := amount.toInt64

/-- The sum, if a word holds it. -/
def add? (left right : Balance) : Option Balance := ofInt? (left.toInt + right.toInt)

/-- The difference, if a word holds it. -/
def sub? (left right : Balance) : Option Balance := ofInt? (left.toInt - right.toInt)

/-- The sum; one that no word holds stops the operation. -/
def add {ε : Type} (left right : Balance) : Outcome ε Balance :=
  match add? left right with
  | some sum => .ok sum
  | none => .error (.overflow .addition)

/-- The difference; one that no word holds stops the operation. -/
def sub {ε : Type} (left right : Balance) : Outcome ε Balance :=
  match sub? left right with
  | some difference => .ok difference
  | none => .error (.overflow .subtraction)

end Balance

end PaymentChannel
