import PaymentChannel.Curve.Ecdsa
import PaymentChannel.Template.Lock

/-! Transactions before and after their signatures.
A channel transaction spends one output. Before it is signed it knows what that output asks for and
what it is worth; afterwards it carries a witness and its identifier.
-/

namespace PaymentChannel

/-- Relative timelocks need this version of transactions. -/
def txVersion : Int32 := 2

/-- The sequence of an input that does not wait. -/
def finalSequence : UInt32 := 0xffffffff

/-- The sequence of an input that waits for a number of blocks. -/
def blockSequence (blocks : UInt16) : UInt32 := blocks.toUInt32

/-- A finished transaction. -/
structure SignedTx where
  kind : TxKind
  tx : Transaction
  txid : Txid
deriving DecidableEq

/-- The finished form of a transaction with its witness. -/
def SignedTx.ofTransaction (kind : TxKind) (tx : Transaction) : SignedTx :=
  ⟨kind, tx, tx.txid⟩

/-- A transaction that is ready to be signed. -/
structure SignableTx where
  kind : TxKind
  /-- The output it spends. -/
  spent : OutPoint
  sequence : UInt32
  outputs : List TxOut
  /-- What the spent output asks for. -/
  scriptCode : Script
  /-- What the spent output is worth. -/
  inputValue : Sat
deriving DecidableEq

namespace SignableTx

/-- The input of the transaction with a witness. -/
def input (signable : SignableTx) (witness : List (List UInt8)) : TxIn :=
  ⟨signable.spent, .empty, signable.sequence, witness⟩

/-- The transaction with a witness of its input. -/
def withWitness (signable : SignableTx) (witness : List (List UInt8)) : Transaction :=
  ⟨txVersion, 0, [signable.input witness], signable.outputs⟩

/-- The transaction without a witness. -/
def transaction (signable : SignableTx) : Transaction := signable.withWitness []

/-- The identifier, which no witness changes. -/
def txid (signable : SignableTx) : Txid := signable.transaction.txid

/-- The sum of the values of all outputs. -/
def outputValue {ε : Type} (signable : SignableTx) : Outcome ε Sat :=
  Sat.sum (signable.outputs.map (·.value))

/-- The hash that signatures of the input commit to. -/
def sighash (signable : SignableTx) : Bytes 32 :=
  signable.transaction.inputDigest (signable.input []) signable.scriptCode signable.inputValue

/-- The signature of the transaction under a key. -/
def sign (signable : SignableTx) (key : SecretKey) : Signature :=
  Ecdsa.sign key signable.sighash

/-- Whether a signature of the transaction was made with the given key. -/
def verifies (signable : SignableTx) (signature : Signature) (key : PublicKey) : Bool :=
  Ecdsa.verify key signable.sighash signature

/-- Refuses a signature that was not made with the given key. -/
def verify (signable : SignableTx) (signature : Signature) (key : PublicKey)
    : Outcome TemplateError Unit :=
  .ensure (signable.verifies signature key) (.invalidSignature signable.kind)

/-- The signature followed by the mark that it covers all inputs and outputs. -/
def witnessSignature (signature : Signature) : List UInt8 :=
  signature.toDer ++ [1]

/-- The transaction with its witness. -/
def finalize (signable : SignableTx) (witness : List (List UInt8)) : SignedTx :=
  .ofTransaction signable.kind (signable.withWitness witness)

/-- Spends an output that pays to the holder of a key. -/
def finalizeKey (signable : SignableTx) (signature : Signature) (key : PublicKey) : SignedTx :=
  signable.finalize [witnessSignature signature, key.toBytes.toList]

/-- Spends an output together. Where the output offers another way too, the witness says which is
taken.
-/
def finalizeMultisig (signable : SignableTx) (merchant customer : Signature) : SignedTx :=
  signable.finalize
    ([[], witnessSignature merchant, witnessSignature customer]
      ++ (if signable.kind = .customerCloseFromMerchantClose then [[1]] else [])
      ++ [signable.scriptCode.bytes])

/-- Spends an output alone after its delay. -/
def finalizeDelayed (signable : SignableTx) (signature : Signature) : SignedTx :=
  signable.finalize [witnessSignature signature, [], signable.scriptCode.bytes]

/-- Spends an output with the secret of its lock. -/
def finalizeDispute (signable : SignableTx) (signature : Signature) (secret : Bytes 32)
    : SignedTx :=
  signable.finalize
    [witnessSignature signature, secret.toList, [1], signable.scriptCode.bytes]

end SignableTx

/-- The value of an output, if it is worth spending. -/
def checkDust (kind : TxKind) (value dustLimit : Sat) : Outcome TemplateError Sat :=
  if value < dustLimit then .refuse (.outputBelowDust kind value dustLimit) else .ok value

/-- What is left of a value after a deduction, if it is enough. -/
def deduct (kind : TxKind) (available deduction : Sat) : Outcome TemplateError Sat :=
  if deduction ≤ available then .ok (available - deduction)
  else .refuse (.insufficientValue kind available deduction)

end PaymentChannel
