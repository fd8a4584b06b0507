import PaymentChannel.Curve.Key
import PaymentChannel.Template.Kind
import PaymentChannel.Transaction

/-! The locking scripts of channel outputs and the output that publishes a revocation lock.
A script depends on the keys, the lock and the delay of its channel only, so the outputs of a
transaction seen on the chain can be compared with the scripts they should have.
-/

namespace PaymentChannel

/-- The lock of a channel state: the hash of the secret that revokes the state. A closing
transaction publishes it, and who knows the secret may take the customer's funds.
-/
structure RevLock where
  bytes : Bytes 32
deriving DecidableEq

namespace RevLock

instance : Ord RevLock := ⟨compareOn bytes⟩

instance : Std.TransOrd RevLock :=
  inferInstanceAs (Std.TransCmp (compareOn bytes))

instance : Std.LawfulEqOrd RevLock where
  compare_self {value} := @Std.ReflCmp.compare_self _ (compare : Bytes 32 → _ → _) _ value.bytes
  eq_of_compare {left right} same := by
    cases left
    cases right
    exact congrArg mk (Std.LawfulEqOrd.eq_of_compare same)

end RevLock

namespace Script

/-- Pushes a public key. -/
def pushKey (key : PublicKey) : Instruction :=
  .push key.toBytes.toList

/-- Asks for signatures of both parties, the merchant's first. -/
def bothSign (merchant customer : PublicKey) : List Instruction :=
  [.number 2, pushKey merchant, pushKey customer, .number 2, .op Opcode.checkMultisig]

/-- Lets the input that spends the output wait for a number of blocks. -/
def waitFor (delay : UInt16) : List Instruction :=
  [.number delay.toNat, .op Opcode.checkSequence, .op Opcode.drop]

/-- The escrow, which both parties spend together. -/
def escrow (merchant customer : PublicKey) : Script :=
  ofInstructions (bothSign merchant customer)

/-- The output of a merchant-close transaction: both parties spend it together at once, or the
merchant alone after the delay.
-/
def merchantClose (merchant customer payout : PublicKey) (delay : UInt16) : Script :=
  ofInstructions ([.op Opcode.ifTrue] ++ bothSign merchant customer ++ [.op Opcode.elseBranch]
    ++ waitFor delay ++ [pushKey payout, .op Opcode.checkSig, .op Opcode.endIf])

/-- The customer's output of a customer-close transaction: the merchant spends it with the secret
of the lock at once, or the customer after the delay.
-/
def toCustomer (lock : RevLock) (dispute close : PublicKey) (delay : UInt16) : Script :=
  ofInstructions ([.op Opcode.ifTrue, .op Opcode.sha256, .push lock.bytes.toList,
      .op Opcode.equalVerify, pushKey dispute, .op Opcode.elseBranch]
    ++ waitFor delay ++ [pushKey close, .op Opcode.endIf, .op Opcode.checkSig])

/-- Pays to the holder of a public key. -/
def toKey (key : PublicKey) : Script :=
  payToKey key.toBytes.toList

/-- What a signature commits to when it spends an output that pays to the holder of a key. -/
def keyCode (key : PublicKey) : Script :=
  keyHashCode key.toBytes.toList

end Script

/-- What a customer-close transaction publishes: its lock and the customer's close key. -/
structure Publication where
  lock : RevLock
  closeKey : PublicKey
deriving DecidableEq

namespace Publication

/-- The number of published bytes. -/
def dataLength : Nat := 65

/-- The published bytes: the lock, then the key. -/
def data (published : Publication) : List UInt8 :=
  published.lock.bytes.toList ++ published.closeKey.toBytes.toList

/-- The output that publishes them. It has no value. -/
def output (published : Publication) : TxOut :=
  ⟨0, .publish published.data⟩

/-- Reads published bytes. -/
def ofData? (bytes : List UInt8) : Option Publication := do
  let lock ← Bytes.ofList? 32 (bytes.take 32)
  let closeKey ← PublicKey.ofBytes? (bytes.drop 32)
  if bytes.length = dataLength then some ⟨⟨lock⟩, closeKey⟩ else none

/-- Reads a script that publishes data: its second instruction pushes the data. -/
def ofScript? (script : Script) : Option Publication :=
  match (Instruction.read? script.bytes).bind fun (_, rest) => Instruction.read? rest with
  | some (.push bytes, _) => ofData? bytes
  | _ => none

/-- What a transaction publishes. Only the first of its outputs that can't be spent counts. -/
def ofTransaction (tx : Transaction) : Outcome TemplateError Publication :=
  match tx.outputs.find? (·.script.isPublication) with
  | none => .refuse .noRevocationOutput
  | some output => .require .malformedRevocationOutput (ofScript? output.script)

end Publication

end PaymentChannel
