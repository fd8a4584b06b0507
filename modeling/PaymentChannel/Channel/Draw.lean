import PaymentChannel.Channel.Error
import PaymentChannel.Entropy

/-! Operations that use random bytes.
Such an operation leaves the source of bytes behind what it drew, whether it succeeds or not.
-/

namespace PaymentChannel

/-- An operation that may draw random bytes. -/
abbrev Draw (α : Type) := ExceptT (Failure ChannelError) (StateM Entropy) α

namespace Draw

/-- The next bytes of the source. -/
def bytes (n : Nat) : Draw (Bytes n) := fun source =>
  let (drawn, rest) := source.draw n
  (.ok drawn, rest)

/-- An operation that draws nothing. -/
def of {α : Type} (outcome : Outcome ChannelError α) : Draw α := fun source =>
  (outcome, source)

/-- The next bytes as a secret key, which a few of them are not. -/
def secretKey : Draw SecretKey := do
  let drawn ← bytes 32
  of (.require .keyGeneration (SecretKey.ofBytes? drawn))

end Draw

end PaymentChannel
