import PaymentChannel.Channel.Token

/-! The messages that customer and merchant exchange. -/

namespace PaymentChannel

/-- The customer asks for the merchant's signature of the merchant-close transaction. -/
structure OpenRequest where
  token : ChannelToken
  funding : FundingInfo
  /-- The customer's signature of the merchant-close transaction. -/
  signature : Signature
deriving DecidableEq

/-- The first state of a channel, as the customer announces it. -/
structure InitialState where
  escrowTxid : Txid
  customerKey : PublicKey
  closeKey : PublicKey
  customerBalance : Balance
  merchantBalance : Balance
  nonce : Nonce
  lock : RevLock
deriving DecidableEq

namespace InitialState

/-- What is hashed for the announcement. -/
def preimage (init : InitialState) : List UInt8 :=
  init.escrowTxid.bytes.toList ++ init.customerKey.toBytes.toList
    ++ init.closeKey.toBytes.toList ++ init.customerBalance.toBytes
    ++ init.merchantBalance.toBytes ++ init.nonce.bytes.toList ++ init.lock.bytes.toList

/-- The hash of the announcement. -/
def hash (init : InitialState) : StateHash :=
  ⟨sha256 init.preimage⟩

/-- The state that is announced for the channel of a token. -/
def state (init : InitialState) (token : ChannelToken) : ChannelState where
  nonce := init.nonce
  lock := init.lock
  customerKey := init.customerKey
  merchantKey := token.merchantKey
  customerBalance := init.customerBalance
  merchantBalance := init.merchantBalance
  escrowTxid := token.escrowTxid
  merchantCloseTxid := token.merchantCloseTxid
  escrowPrevout := token.escrowPrevout
  merchantClosePrevout := token.merchantClosePrevout

end InitialState

/-- The merchant's signatures of both customer-close transactions of a state. -/
structure CloseSignatures where
  escrow : Signature
  merchantClose : Signature
deriving DecidableEq

/-- The signature of the transaction that spends a source. -/
def CloseSignatures.of (signatures : CloseSignatures) : CloseSource → Signature
  | .escrow => signatures.escrow
  | .merchantClose => signatures.merchantClose

/-- The customer asks for a payment. -/
structure PaymentRequest where
  session : SessionId
  /-- The nonce of the current state, which the payment revokes. -/
  nonce : Nonce
  commitment : RevLockCom
  amount : Balance
  /-- The reason for a refund. -/
  justification : Option String
deriving DecidableEq

/-- The merchant commits to the mask of the new pay token. -/
structure PaymentResponse where
  session : SessionId
  commitment : PayMaskCom
deriving DecidableEq

/-- The masks that the merchant releases once the new state is masked. -/
structure ReleasedMasks where
  session : SessionId
  masks : TxMasks
deriving DecidableEq

/-- The receipt of a finished payment. -/
structure Receipt where
  session : SessionId
  /-- The nonce of the new state. -/
  nonce : Nonce
  customerBalance : Balance
  merchantBalance : Balance
deriving DecidableEq

end PaymentChannel
