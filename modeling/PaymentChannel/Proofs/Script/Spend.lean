import PaymentChannel.Proofs.Curve.Der
import PaymentChannel.Template.Signable

/-! What a script can ask about the transaction that spends its output.
A signature covers the parts of the transaction that its hash type names (BIP 143), and the
sequence of an input is a relative lock that the script can ask for (BIP 112).
-/

namespace PaymentChannel

/-- An input of a transaction and what the output that it spends is worth. -/
structure Spend where
  tx : Transaction
  index : Nat
  input : TxIn
  found : tx.inputs[index]? = some input
  value : Sat

namespace Spend

/-- A hash type whose signature covers its own input only, and others may be added. -/
def coversOneInput (hashType : UInt8) : Bool := hashType &&& 0x80 != 0

/-- Which outputs a signature covers. -/
inductive Coverage
  | all
  | none
  | same
deriving DecidableEq

def coverage (hashType : UInt8) : Coverage :=
  if hashType &&& 0x1f = 2 then .none else if hashType &&& 0x1f = 3 then .same else .all

/-- Stands for what a signature does not cover. -/
def uncovered : Bytes 32 := .replicate 32 0

/-- The hash of the outputs that a signature covers. -/
def outputsHash (spend : Spend) : Coverage → Bytes 32
  | .all => doubleSha256 (spend.tx.outputs.flatMap TxOut.toBytes)
  | .none => uncovered
  | .same =>
      match spend.tx.outputs[spend.index]? with
      | some output => doubleSha256 output.toBytes
      | none => uncovered

/-- The hash that a signature of the input commits to. -/
def digest (spend : Spend) (script : Script) (hashType : UInt8) : Bytes 32 :=
  let prevouts :=
    if coversOneInput hashType then uncovered
    else doubleSha256 (spend.tx.inputs.flatMap (·.previousOutput.toBytes))
  let sequences :=
    if coversOneInput hashType ∨ coverage hashType ≠ .all then uncovered
    else doubleSha256 (spend.tx.inputs.flatMap (littleEndian 4 ·.sequence.toNat))
  doubleSha256 (spend.tx.versionBytes ++ prevouts.toList ++ sequences.toList
    ++ spend.input.previousOutput.toBytes ++ counted script.bytes
    ++ littleEndian 8 spend.value.toNat ++ littleEndian 4 spend.input.sequence.toNat
    ++ (spend.outputsHash (coverage hashType)).toList
    ++ spend.tx.lockTimeBytes ++ littleEndian 4 hashType.toNat)

/-- Of the two signatures that answer for the same message the lower one. Both verify. -/
def lowered (signature : Signature) : Signature :=
  if Ecdsa.isLow signature.s then signature else ⟨signature.r, -signature.s⟩

/-- Whether an element of the stack is a signature of the input under a key. A signature that is not
well-formed ends the evaluation, except that an empty one is none; a key that is not well-formed
verifies nothing.
-/
def checkSignature (spend : Spend) (script : Script) (element key : List UInt8) : Option Bool :=
  if element = [] then some false
  else do
    let (signature, hashType) ← Signature.ofWitness? element
    match PublicKey.ofBytes? key with
    | some key => return Ecdsa.verify key (spend.digest script hashType) (lowered signature)
    | none => return false

/-- An element holds a signature of the input under a key. -/
def Signed (spend : Spend) (script : Script) (element : List UInt8) (key : PublicKey) : Prop :=
  ∃ signature hashType, Signature.ofWitness? element = some (signature, hashType)
    ∧ Ecdsa.verify key (spend.digest script hashType) (lowered signature) = true

/-- A sequence that is no relative lock. -/
def isFree (sequence : Nat) : Bool := sequence.testBit 31

/-- A relative lock that counts time and not blocks. -/
def countsTime (sequence : Nat) : Bool := sequence.testBit 22

/-- How many blocks, or units of time, a relative lock waits. -/
def span (sequence : Nat) : Nat := sequence % 0x10000

/-- The input waits at least as long as it is asked to. Locks mean something from version 2 on, where
versions count as unsigned, and blocks do not compare with time.
-/
def waits (spend : Spend) (asked : Nat) : Bool :=
  2 ≤ spend.tx.version.toUInt32
    && !isFree spend.input.sequence.toNat
    && countsTime spend.input.sequence.toNat == countsTime asked
    && span asked ≤ span spend.input.sequence.toNat

/-- The input waits for a number of blocks, which takes version 2 or a later one. -/
structure WaitsBlocks (spend : Spend) (blocks : UInt16) : Prop where
  version : 2 ≤ spend.tx.version.toUInt32
  locked : isFree spend.input.sequence.toNat = false
  counted : countsTime spend.input.sequence.toNat = false
  long : blocks.toNat ≤ span spend.input.sequence.toNat

end Spend

end PaymentChannel
