import PaymentChannel.Amount
import PaymentChannel.Script
import PaymentChannel.Hex

/-! Transactions, their written form and their identifiers.
The identifier is a hash of everything but the witnesses, so it does not change when a witness is
added.
-/

namespace PaymentChannel

-----------------------------------------------------------------------------------------
-- Identifiers
-----------------------------------------------------------------------------------------

/-- The identifier of a transaction, in the byte order in which transactions refer to it. -/
structure Txid where
  bytes : Bytes 32
deriving DecidableEq

namespace Txid

instance : Ord Txid := ⟨compareOn bytes⟩

instance : Std.TransOrd Txid :=
  inferInstanceAs (Std.TransCmp (compareOn bytes))

instance : Std.LawfulEqOrd Txid where
  compare_self {value} := @Std.ReflCmp.compare_self _ (compare : Bytes 32 → _ → _) _ value.bytes
  eq_of_compare {left right} same := by
    cases left
    cases right
    exact congrArg mk (Std.LawfulEqOrd.eq_of_compare same)

/-- The byte order in which identifiers are shown. -/
def shown (txid : Txid) : Bytes 32 := txid.bytes.reverse

/-- The identifier that is shown as the given bytes. -/
def ofShown (bytes : Bytes 32) : Txid := ⟨bytes.reverse⟩

/-- The text by which people know the transaction. -/
def text (txid : Txid) : String := txid.shown.hex

/-- Reads an identifier from its text. -/
def ofText? (text : String) : Option Txid :=
  (Bytes.ofHex? 32 text).map ofShown

end Txid

/-- One output of a transaction. -/
structure OutPoint where
  txid : Txid
  index : UInt32
deriving DecidableEq

/-- A hash that names an output. -/
structure Prevout where
  bytes : Bytes 32
deriving DecidableEq

namespace OutPoint

/-- The written form inside of transactions. -/
def toBytes (outpoint : OutPoint) : List UInt8 :=
  outpoint.txid.bytes.toList ++ littleEndian 4 outpoint.index.toNat

/-- The hash that names the output. -/
def prevout (outpoint : OutPoint) : Prevout :=
  ⟨doubleSha256 outpoint.toBytes⟩

/-- The text by which people know the output. -/
def text (outpoint : OutPoint) : String :=
  s!"{outpoint.txid.text}:{outpoint.index}"

/-- Reads the decimal form of an index: digits only, without a zero in front. -/
def indexOfText? (text : List Char) : Option UInt32 :=
  if text ≠ [] ∧ text.all Char.isDigit ∧ (text.length = 1 ∨ text.head? ≠ some '0') then
    let value := text.foldl (fun value digit => value * 10 + (digit.toNat - 48)) 0
    if value < UInt32.size then some (UInt32.ofNat value) else none
  else none

/-- Reads an output from its text. -/
def ofText? (text : String) : Option OutPoint :=
  let (before, after) := text.toList.span (· ≠ ':')
  match after with
  | [] => none
  | _ :: index => do
      return ⟨← Txid.ofText? (String.ofList before), ← indexOfText? index⟩

end OutPoint

-----------------------------------------------------------------------------------------
-- Transactions
-----------------------------------------------------------------------------------------

/-- An input: the output it spends and what entitles it to. -/
structure TxIn where
  previousOutput : OutPoint
  scriptSig : Script
  sequence : UInt32
  witness : List (List UInt8)
deriving DecidableEq

/-- An output: its value and who may spend it. -/
structure TxOut where
  value : Sat
  script : Script
deriving DecidableEq

/-- A transaction. -/
structure Transaction where
  version : Int32
  lockTime : UInt32
  inputs : List TxIn
  outputs : List TxOut
deriving DecidableEq

/-- A count in front of a list, in the shortest of its four forms. -/
def compactSize (count : Nat) : List UInt8 :=
  if count < 0xfd then [UInt8.ofNat count]
  else if count < 0x10000 then 0xfd :: littleEndian 2 count
  else if count < 0x100000000 then 0xfe :: littleEndian 4 count
  else 0xff :: littleEndian 8 count

/-- A byte string behind its length. -/
def counted (bytes : List UInt8) : List UInt8 :=
  compactSize bytes.length ++ bytes

/-- The written form of an input, without its witness. -/
def TxIn.toBytes (input : TxIn) : List UInt8 :=
  input.previousOutput.toBytes ++ counted input.scriptSig.bytes
    ++ littleEndian 4 input.sequence.toNat

/-- The written form of a witness. -/
def TxIn.witnessBytes (input : TxIn) : List UInt8 :=
  compactSize input.witness.length ++ input.witness.flatMap counted

/-- The written form of an output. -/
def TxOut.toBytes (output : TxOut) : List UInt8 :=
  littleEndian 8 output.value.toNat ++ counted output.script.bytes

namespace Transaction

/-- The bytes of the version. -/
def versionBytes (tx : Transaction) : List UInt8 :=
  littleEndian 4 tx.version.toUInt32.toNat

/-- The bytes of the lock time. -/
def lockTimeBytes (tx : Transaction) : List UInt8 :=
  littleEndian 4 tx.lockTime.toNat

/-- The inputs and the outputs behind their counts. -/
def bodyBytes (tx : Transaction) : List UInt8 :=
  compactSize tx.inputs.length ++ tx.inputs.flatMap TxIn.toBytes
    ++ compactSize tx.outputs.length ++ tx.outputs.flatMap TxOut.toBytes

/-- The written form without witnesses, from which the identifier is made. -/
def strippedBytes (tx : Transaction) : List UInt8 :=
  tx.versionBytes ++ tx.bodyBytes ++ tx.lockTimeBytes

/-- The identifier of the transaction. -/
def txid (tx : Transaction) : Txid :=
  ⟨doubleSha256 tx.strippedBytes⟩

/-- The written form. Witnesses are left out when there are none, except that a transaction
without inputs always shows that it has none.
-/
def toBytes (tx : Transaction) : List UInt8 :=
  if tx.inputs = [] ∨ tx.inputs.any (!·.witness.isEmpty) then
    tx.versionBytes ++ [0, 1] ++ tx.bodyBytes ++ tx.inputs.flatMap TxIn.witnessBytes
      ++ tx.lockTimeBytes
  else tx.strippedBytes

/-- The written form as hexadecimal text. -/
def hex (tx : Transaction) : String := Hex.encode tx.toBytes

/-- The hash that a signature of the first input commits to. The script code says what the spent
output asks for and the value what it is worth.
-/
def inputDigest (tx : Transaction) (input : TxIn) (scriptCode : Script) (value : Sat) : Bytes 32 :=
  doubleSha256 (tx.versionBytes
    ++ (doubleSha256 (tx.inputs.flatMap (·.previousOutput.toBytes))).toList
    ++ (doubleSha256 (tx.inputs.flatMap (littleEndian 4 ·.sequence.toNat))).toList
    ++ input.previousOutput.toBytes ++ counted scriptCode.bytes ++ littleEndian 8 value.toNat
    ++ littleEndian 4 input.sequence.toNat
    ++ (doubleSha256 (tx.outputs.flatMap TxOut.toBytes)).toList
    ++ tx.lockTimeBytes ++ littleEndian 4 1)

end Transaction

end PaymentChannel
