import PaymentChannel.Hash.Hmac
import PaymentChannel.Revocation
import PaymentChannel.Template.Close

/-! Channel states and the tokens by which a merchant vouches for them.
A state is one division of the funds of a channel. It is hashed field by field, every field at a
fixed width, and a pay token authenticates the hash under a key of the merchant.
-/

namespace PaymentChannel

-----------------------------------------------------------------------------------------
-- States
-----------------------------------------------------------------------------------------

/-- A hash that stands for a channel state. -/
structure StateHash where
  bytes : Bytes 32
deriving DecidableEq

/-- The balances, the lock and the identity of a channel at one point of its life. -/
structure ChannelState where
  nonce : Nonce
  lock : RevLock
  /-- The customer's key of the escrow. -/
  customerKey : PublicKey
  /-- The merchant's key of the escrow. -/
  merchantKey : PublicKey
  customerBalance : Balance
  merchantBalance : Balance
  escrowTxid : Txid
  merchantCloseTxid : Txid
  escrowPrevout : Prevout
  merchantClosePrevout : Prevout
deriving DecidableEq

/-- The bytes of a balance, in two's complement. -/
def Balance.toBytes (balance : Balance) : List UInt8 :=
  bigEndian 8 balance.toUInt64.toNat

namespace ChannelState

/-- What is hashed for a state. -/
def preimage (state : ChannelState) : List UInt8 :=
  state.nonce.bytes.toList ++ state.lock.bytes.toList
    ++ state.customerKey.toBytes.toList ++ state.merchantKey.toBytes.toList
    ++ state.customerBalance.toBytes ++ state.merchantBalance.toBytes
    ++ state.escrowTxid.bytes.toList ++ state.merchantCloseTxid.bytes.toList
    ++ state.escrowPrevout.bytes.toList ++ state.merchantClosePrevout.bytes.toList

/-- The hash of a state. -/
def hash (state : ChannelState) : StateHash :=
  ⟨sha256 state.preimage⟩

/-- The balances as values of outputs. -/
def balances (state : ChannelState) : Outcome TemplateError CloseBalances :=
  CloseBalances.ofBalances state.customerBalance state.merchantBalance

/-- The state after the customer paid an amount; a negative amount is a refund. -/
def pay {ε : Type} (state : ChannelState) (amount : Balance) (lock : RevLock)
    : Outcome ε ChannelState := do
  let customerBalance ← Balance.sub state.customerBalance amount
  let merchantBalance ← Balance.add state.merchantBalance amount
  return { state with nonce := state.nonce.next, lock, customerBalance, merchantBalance }

end ChannelState

-----------------------------------------------------------------------------------------
-- Pay tokens
-----------------------------------------------------------------------------------------

/-- The merchant's key for pay tokens. -/
structure HmacKey where
  bytes : Bytes 32
deriving DecidableEq

/-- The merchant's authentication of a state. A payment needs the token of the current state. -/
structure PayToken where
  bytes : Bytes 32
deriving DecidableEq

/-- The token of a state. -/
def PayToken.compute (key : HmacKey) (state : ChannelState) : PayToken :=
  ⟨hmacSha256 key.bytes.toList state.hash.bytes.toList⟩

-----------------------------------------------------------------------------------------
-- Progress of channels and payments
-----------------------------------------------------------------------------------------

/-- How far the customer has come with a channel. -/
inductive Stage
  | initialized
  | funded
  | activated
  | ready
  | closing
  | closed
  | disputed
deriving DecidableEq

namespace Stage

/-- All stages in their order. -/
def all : List Stage :=
  [.initialized, .funded, .activated, .ready, .closing, .closed, .disputed]

/-- The name of a stage in messages. -/
def label : Stage → String
  | .initialized => "INIT"
  | .funded => "FUNDED"
  | .activated => "ACTIVATED"
  | .ready => "OPEN"
  | .closing => "CLOSING"
  | .closed => "CLOSED"
  | .disputed => "DISPUTED"

end Stage

/-- How far the transactions of a channel have come on the chain. -/
inductive ChannelStatus
  | unfunded
  | pendingOpen
  | confirmed
  | merchantClosing
  | customerClosing
  | disputed
  | pendingClose
  | settled
deriving DecidableEq

namespace ChannelStatus

/-- All statuses in their order. -/
def all : List ChannelStatus :=
  [.unfunded, .pendingOpen, .confirmed, .merchantClosing, .customerClosing, .disputed,
    .pendingClose, .settled]

/-- The name of a status in messages. -/
def label : ChannelStatus → String
  | .unfunded => "none"
  | .pendingOpen => "pending-open"
  | .confirmed => "open"
  | .merchantClosing => "merchant-init-close"
  | .customerClosing => "customer-init-close"
  | .disputed => "disputed"
  | .pendingClose => "pending-close"
  | .settled => "confirmed-close"

end ChannelStatus

/-- How far a payment has come at the merchant. -/
inductive PaymentStatus
  | prepared
  | updating
  | confirmed
  | revoked
  | failed
deriving DecidableEq

namespace PaymentStatus

/-- All statuses in their order. -/
def all : List PaymentStatus := [.prepared, .updating, .confirmed, .revoked, .failed]

/-- The name of a status in messages. -/
def label : PaymentStatus → String
  | .prepared => "prepare"
  | .updating => "update"
  | .confirmed => "confirmed"
  | .revoked => "revoked"
  | .failed => "error"

end PaymentStatus

end PaymentChannel
